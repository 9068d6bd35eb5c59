import PluginKit.Text.Utf8

/-!
# Octets of characters

The octets of a text are those of its characters, one after another. A character of ASCII is one octet
that no other character has among its own, so it can be looked for in the octets.

## Main statements

- `toList_encode`: the octets of a text are those of its characters.
- `mem_toList_encode_iff`: a character of ASCII stands in a text if its octet stands in its octets.
-/

namespace PluginKit.Text

theorem toList_loop (b : Octets) (i : Nat) (done : List UInt8) :
    ByteArray.toList.loop b i done = done.reverse ++ b.data.toList.drop i := by
  fun_induction ByteArray.toList.loop b i done with
  | case1 i done inside ih =>
    have here : i < b.data.toList.length := by
      simpa using inside
    rw [ih, List.drop_eq_getElem_cons here]
    simp [ByteArray.get!, inside]
  | case2 i done beyond =>
    have short : b.data.toList.length ≤ i := by
      simpa using Nat.le_of_not_lt beyond
    rw [List.drop_eq_nil_of_le short, List.append_nil]

/-- Octets are told by their list. -/
theorem mk_toList (b : Octets) : ByteArray.mk b.toList.toArray = b := by
  rw [ByteArray.toList, toList_loop]
  rfl

/-- The octets of a text are those of its characters, one after another. -/
theorem toList_encode (s : String) :
    (encode s).toList = s.toList.flatMap String.utf8EncodeChar := by
  have octets : encode s = (s.toList.flatMap String.utf8EncodeChar).toByteArray := by
    rw [encode, ← String.utf8Encode_toList, List.utf8Encode]
  rw [octets, ByteArray.toList, toList_loop, List.toList_data_toByteArray]
  rfl

/-- Beyond ASCII, every octet of a character has its highest bit set. -/
theorem high_of_mem_utf8EncodeChar {c : Char} (beyond : ¬ c.val.toNat ≤ 127) {o : UInt8}
    (member : o ∈ String.utf8EncodeChar c) : ∃ n, o = UInt8.ofNat n ∧ 128 ≤ n ∧ n < 256 := by
  revert member
  fun_cases String.utf8EncodeChar c
  case case1 low => exact absurd low beyond
  all_goals
    intro member
    simp only [List.mem_cons, List.not_mem_nil, or_false] at member
    rcases member with rfl | rfl | rfl | rfl
    all_goals exact ⟨_, rfl, by omega, by omega⟩

/-- The octet of a character of ASCII is an octet of no other character. -/
theorem mem_utf8EncodeChar_iff {c d : Char} (ascii : c.toNat ≤ 127) :
    UInt8.ofNat c.toNat ∈ String.utf8EncodeChar d ↔ d = c := by
  have value {n : Nat} (octet : n < 256) : (UInt8.ofNat n).toNat = n := UInt8.toNat_ofNat_of_lt' octet
  constructor
  · intro member
    by_cases low : d.val.toNat ≤ 127
    · rw [String.utf8EncodeChar, if_pos low, List.mem_singleton, ← UInt8.toNat_inj,
        value (by omega)] at member
      rw [← Char.toNat_inj, member]
      exact (value (Nat.lt_of_le_of_lt low (by decide))).symm
    · obtain ⟨n, same, high, octet⟩ := high_of_mem_utf8EncodeChar low member
      rw [← UInt8.toNat_inj, value octet, value (by omega)] at same
      omega
  · rintro rfl
    have low : d.val.toNat ≤ 127 := ascii
    rw [String.utf8EncodeChar, if_pos low]
    exact List.mem_singleton.2 rfl

/-- A character of ASCII stands in a text if its octet stands in its octets. -/
theorem mem_toList_encode_iff {c : Char} (ascii : c.toNat ≤ 127) {s : String} :
    UInt8.ofNat c.toNat ∈ (encode s).toList ↔ c ∈ s.toList := by
  simp only [toList_encode, List.mem_flatMap, mem_utf8EncodeChar_iff ascii, exists_eq_right]

end PluginKit.Text
