import PluginKit.Proofs.Json.Floats

/-!
# What is written reads back

A value is written as a text that reads as that value but for its numbers, each of which reads as
its own text does (`Json.reread`), as long as it is nested no deeper than a reader goes. Integers of 64
bits read as themselves, and every finite number reads as a number. The reader is followed along the
written text: numbers, strings character by character, and then items and members with what comes after
them.

## Main statements

- `ofString_render_reread`: the text of a value reads as the value with its numbers reread.
- `decodeOctets_render`: a value with integers of 64 bits that was written decodes as the value itself.
- `size_le_length`: a value is written with at least one character for every value inside it.
-/

namespace PluginKit.Json

/-! ## Integers of 64 bits -/

mutual
/-- Whether every number inside a value is an integer of 64 bits. -/
def isIntegral : Json → Bool
  | .num n => n.isIntegral
  | .arr xs => integralItems xs
  | .obj ms => integralMembers ms
  | _ => true
/-- `isIntegral` for every item. -/
def integralItems : List Json → Bool
  | [] => true
  | x :: xs => isIntegral x && integralItems xs
/-- `isIntegral` for the value of every member. -/
def integralMembers : List (String × Json) → Bool
  | [] => true
  | (_, v) :: ms => isIntegral v && integralMembers ms
end

theorem integralItems_map {α : Type} (f : α → Json) (xs : List α) :
    integralItems (xs.map f) = xs.all fun x => (f x).isIntegral := by
  induction xs with
  | nil => rfl
  | cons x xs ih => rw [List.map_cons, integralItems, ih, List.all_cons]

theorem integralMembers_eq_all (ms : List (String × Json)) :
    integralMembers ms = ms.all fun e => e.2.isIntegral := by
  induction ms with
  | nil => rfl
  | cons e ms ih => rw [integralMembers, ih, List.all_cons]

@[simp] theorem integralMembers_append (ms ns : List (String × Json)) :
    integralMembers (ms ++ ns) = (integralMembers ms && integralMembers ns) := by
  simp only [integralMembers_eq_all, List.all_append]

@[simp] theorem integralMembers_ifSome (key : String) (v : Option Json) :
    integralMembers (ifSome key v) = v.all isIntegral := by
  cases v <;> simp [ifSome, integralMembers]

@[simp] theorem integralMembers_memberIf (cond : Bool) (key : String) (v : Json) :
    integralMembers (memberIf cond key v) = (!cond || v.isIntegral) := by
  cases cond <;> simp [memberIf, integralMembers]

/-- A natural number of 64 bits is written as an integer of 64 bits. -/
theorem isIntegral_nat {n : Nat} (h : n < Nat.pow 2 64) : (nat n).isIntegral = true := by
  simp only [nat, isIntegral, Number.isIntegral, Bool.and_eq_true, decide_eq_true_eq]
  constructor
  · have : (0 : Int) ≤ n := Int.natCast_nonneg n
    have : (0 : Int) ≤ (Nat.pow 2 63 : Nat) := Int.natCast_nonneg _
    omega
  · exact Int.ofNat_lt.2 h

/-! ## Numbers that read back -/

mutual
/-- Whether every number inside a value is an integer of 64 bits or a finite floating point number. -/
def isRanged : Json → Bool
  | .num n => n.isRanged
  | .arr xs => rangedItems xs
  | .obj ms => rangedMembers ms
  | _ => true
/-- `isRanged` for every item. -/
def rangedItems : List Json → Bool
  | [] => true
  | x :: xs => isRanged x && rangedItems xs
/-- `isRanged` for the value of every member. -/
def rangedMembers : List (String × Json) → Bool
  | [] => true
  | (_, v) :: ms => isRanged v && rangedMembers ms
end

mutual
/-- The value with every number replaced by what its text reads as. -/
def reread : Json → Json
  | .num n => .num (n.reread.getD n)
  | .arr xs => .arr (rereadItems xs)
  | .obj ms => .obj (rereadMembers ms)
  | v => v
/-- `reread` on every item. -/
def rereadItems : List Json → List Json
  | [] => []
  | x :: xs => reread x :: rereadItems xs
/-- `reread` on the value of every member. -/
def rereadMembers : List (String × Json) → List (String × Json)
  | [] => []
  | (k, v) :: ms => (k, reread v) :: rereadMembers ms
end

theorem rangedItems_eq_all (xs : List Json) : rangedItems xs = xs.all isRanged := by
  induction xs with
  | nil => rfl
  | cons x xs ih => rw [rangedItems, ih, List.all_cons]

theorem rangedMembers_eq_all (ms : List (String × Json)) :
    rangedMembers ms = ms.all fun e => e.2.isRanged := by
  induction ms with
  | nil => rfl
  | cons e ms ih => rw [rangedMembers, ih, List.all_cons]

theorem rereadItems_eq_map (xs : List Json) : rereadItems xs = xs.map reread := by
  induction xs with
  | nil => rfl
  | cons x xs ih => rw [rereadItems, ih, List.map_cons]

theorem rereadMembers_eq_map (ms : List (String × Json)) :
    rereadMembers ms = ms.map fun e => (e.1, e.2.reread) := by
  induction ms with
  | nil => rfl
  | cons e ms ih => rw [rereadMembers, ih, List.map_cons]

mutual
/-- Integers of 64 bits read back as they are. -/
theorem reread_of_isIntegral : (v : Json) → v.isIntegral = true →
    v.isRanged = true ∧ v.reread = v
  | .null, _ => ⟨rfl, rfl⟩
  | .bool _, _ => ⟨rfl, rfl⟩
  | .num n, h => by
    obtain ⟨k, written⟩ := Reader.exists_writtenAs_of_isIntegral h
    simp [isRanged, reread, written.reread_eq, n.isRanged_of_isIntegral h]
  | .str _, _ => ⟨rfl, rfl⟩
  | .arr xs, h => by
    have items := rereadItems_of_integral xs h
    exact ⟨items.1, congrArg arr items.2⟩
  | .obj ms, h => by
    have members := rereadMembers_of_integral ms h
    exact ⟨members.1, congrArg obj members.2⟩
/-- `reread_of_isIntegral` item by item. -/
theorem rereadItems_of_integral : (xs : List Json) → integralItems xs = true →
    rangedItems xs = true ∧ rereadItems xs = xs
  | [], _ => ⟨rfl, rfl⟩
  | x :: xs, h => by
    simp only [integralItems, Bool.and_eq_true] at h
    have first := reread_of_isIntegral x h.1
    have later := rereadItems_of_integral xs h.2
    simp [rangedItems, rereadItems, first, later]
/-- `reread_of_isIntegral` member by member. -/
theorem rereadMembers_of_integral : (ms : List (String × Json)) → integralMembers ms = true →
    rangedMembers ms = true ∧ rereadMembers ms = ms
  | [], _ => ⟨rfl, rfl⟩
  | (k, v) :: ms, h => by
    simp only [integralMembers, Bool.and_eq_true] at h
    have first := reread_of_isIntegral v h.1
    have later := rereadMembers_of_integral ms h.2
    simp [rangedMembers, rereadMembers, first, later]
end

namespace Reader

/-! ## Strings -/

theorem hexFour?_control {n : Nat} (h : n < 0x20) :
    hexFour? '0' '0' (hexDigit (n / 16)) (hexDigit n) = some n := by
  have all : ∀ m < 0x20, hexFour? '0' '0' (hexDigit (m / 16)) (hexDigit m) = some m := by decide
  exact all n h

theorem scan_plain {c : Char} (quote : c ≠ '"') (slash : c ≠ '\\') (printable : 0x20 ≤ c.toNat)
    (r : List Char) (p : Progress) :
    scan nothingForeign (c :: r) p = scan nothingForeign r (p.push c) := by
  rw [scan]
  · rw [if_neg (by omega)]
    rfl
  · exact quote
  · exact fun h _ => slash h
  · exact fun _ _ _ _ _ h _ => slash h
  · exact fun _ h _ => slash h
  · exact fun _ _ h _ => slash h

theorem scan_short {e c : Char} (unit : e ≠ 'u') (escape : shortEscape? e = some c) (r : List Char)
    (p : Progress) :
    scan nothingForeign ('\\' :: e :: r) p = scan nothingForeign r (p.push c) := by
  rw [scan]
  · rw [escape]
  · exact fun _ _ _ _ _ h _ => unit h
  · exact fun h => unit h

theorem scan_unit {a b c d : Char} {n : Nat} (hex : hexFour? a b c d = some n) (r : List Char)
    (p : Progress) :
    scan nothingForeign ('\\' :: 'u' :: a :: b :: c :: d :: r) p =
      scan nothingForeign r (p.unit n) := by
  rw [scan, hex]

theorem unit_control {n : Nat} (h : n < 0x20) (cs : List Char) :
    Progress.unit { chars := cs } n = { chars := Char.ofNat n :: cs } := by
  have low : ¬ (0xDC00 ≤ n ∧ n ≤ 0xDFFF) := by omega
  have high : ¬ (0xD800 ≤ n ∧ n ≤ 0xDBFF) := by omega
  simp [Progress.unit, low, high]

/-- An escaped character reads as the character. -/
theorem scan_escapeChar (c : Char) (r cs : List Char) :
    scan nothingForeign (escapeChar c ++ r) { chars := cs } =
      scan nothingForeign r { chars := c :: cs } := by
  have short {e d : Char} (hd : c = d) (unit : e ≠ 'u') (escape : shortEscape? e = some d) :
      scan nothingForeign (['\\', e] ++ r) { chars := cs } =
        scan nothingForeign r { chars := c :: cs } := by
    subst hd
    exact scan_short unit escape r _
  -- one case for each way to write a character, in the order in which they are tried
  unfold escapeChar
  split
  · next h => exact short h (by decide) rfl
  split
  · next h => exact short h (by decide) rfl
  split
  · next quote slash printable => exact scan_plain quote slash printable r _
  split
  · next h => exact short h (by decide) rfl
  split
  · next h => exact short h (by decide) rfl
  split
  · next h => exact short h (by decide) rfl
  split
  · next h => exact short h (by decide) rfl
  split
  · next h => exact short h (by decide) rfl
  · next control _ _ _ _ _ =>
    have small : c.toNat < 0x20 := by omega
    rw [List.cons_append, List.cons_append, List.cons_append, List.cons_append, List.cons_append,
      List.cons_append, List.nil_append, scan_unit (hexFour?_control small), unit_control small,
      Char.ofNat_toNat]

theorem scan_escaped (l r cs : List Char) :
    scan nothingForeign (l.flatMap escapeChar ++ '"' :: r) { chars := cs } =
      .text (String.ofList (cs.reverse ++ l)) r := by
  induction l generalizing cs with
  | nil =>
    rw [List.append_nil]
    rfl
  | cons c l ih =>
    rw [List.flatMap_cons, List.append_assoc, scan_escapeChar, ih]
    simp

/-- A written string reads back from after its opening quote. -/
theorem scan_string (s : String) (r : List Char) :
    scan nothingForeign (s.toList.flatMap escapeChar ++ '"' :: r) {} = .text s r := by
  simpa using scan_escaped s.toList r []

/-! ## Values -/

/-- A character that is neither blank nor the end of an array. -/
def Opening (c : Char) : Prop := isBlank c = false ∧ c ≠ ']'

theorem opening_of_isDigit {c : Char} (h : c.isDigit = true) : Opening c := by
  constructor
  · cases hb : isBlank c with
    | false => rfl
    | true =>
      simp only [isBlank, Bool.or_eq_true, beq_iff_eq] at hb
      rcases hb with ((rfl | rfl) | rfl) | rfl <;> exact absurd h (by decide)
  · rintro rfl
    exact absurd h (by decide)

/-- A written value starts with a character that opens a value. -/
theorem renderOnto_eq_cons {v : Json} (h : v.isRanged = true) (rest : List Char) :
    ∃ c r, renderOnto rest v = c :: r ∧ Opening c := by
  cases v with
  | null => exact ⟨_, _, rfl, by decide, by decide⟩
  | bool b => cases b <;> exact ⟨_, _, rfl, by decide, by decide⟩
  | num n =>
    obtain ⟨k, v, written⟩ := exists_writtenAs_of_isRanged h
    obtain ⟨c, r, hc, rfl | digit⟩ := written.render_eq_cons
    · exact ⟨_, _, by rw [renderOnto, hc]; rfl, by decide, by decide⟩
    · exact ⟨c, _, by rw [renderOnto, hc]; rfl, opening_of_isDigit digit⟩
  | str s => exact ⟨_, _, rfl, by decide, by decide⟩
  | arr xs => cases xs <;> exact ⟨_, _, rfl, by decide, by decide⟩
  | obj ms => rcases ms with _ | ⟨⟨k, v⟩, ms⟩ <;> exact ⟨_, _, rfl, by decide, by decide⟩

theorem skipBlanks_cons {c : Char} (h : isBlank c = false) (r : List Char) :
    skipBlanks (c :: r) = c :: r := by
  rw [skipBlanks, List.dropWhile_cons_of_neg]
  simpa using h

/-- The marks between and around values are no blanks. -/
theorem skipBlanks_mark {c : Char} (h : c ∈ [',', ':', ']', '}', '"']) (r : List Char) :
    skipBlanks (c :: r) = c :: r := by
  refine skipBlanks_cons ?_ r
  simp only [List.mem_cons, List.not_mem_nil, or_false] at h
  rcases h with rfl | rfl | rfl | rfl | rfl <;> decide

theorem delimited_renderItems (xs : List Json) (rest : List Char) :
    Delimited (renderItems (']' :: rest) xs) := by
  cases xs <;> exact delimited_cons _ (by decide)

theorem delimited_renderMembers (ms : List (String × Json)) (rest : List Char) :
    Delimited (renderMembers ('}' :: rest) ms) := by
  rcases ms with _ | ⟨⟨k, v⟩, ms⟩ <;> exact delimited_cons _ (by decide)

theorem size_pos (v : Json) : 0 < v.size := by
  cases v <;> simp [size]

mutual
/-- A written value reads back, whatever comes after it, with enough levels of nesting left. -/
theorem value_renderOnto : (v : Json) → v.isRanged = true → (fuel depth : Nat) →
    3 * v.size ≤ fuel → v.depth ≤ depth → (rest : List Char) → Delimited rest →
    value nothingForeign fuel depth (renderOnto rest v) = (Node.ofJson v.reread, some rest)
  | v, _, 0, _, enough, _, _, _ => by
    have := size_pos v
    omega
  | .null, _, fuel + 1, depth, _, _, rest, _ => by
    simp [renderOnto, value, word, reread, Node.ofJson]
  | .bool true, _, fuel + 1, depth, _, _, rest, _ => by
    simp [renderOnto, value, word, reread, Node.ofJson]
  | .bool false, _, fuel + 1, depth, _, _, rest, _ => by
    simp [renderOnto, value, word, reread, Node.ofJson]
  | .num n, h, fuel + 1, depth, _, _, rest, next => by
    obtain ⟨k, v, written⟩ := exists_writtenAs_of_isRanged h
    rw [renderOnto, reread, written.reread_eq]
    exact written.value_append fuel depth next
  | .str s, _, fuel + 1, depth, _, _, rest, _ => by
    rw [renderOnto, renderString, List.cons_append, List.cons_append, List.append_assoc, value,
      List.singleton_append, scan_string]
    rfl
  | .arr [], _, fuel + 1, depth + 1, _, _, rest, _ => by
    rw [renderOnto, value, skipBlanks_cons (by decide)]
    rfl
  | .arr [], _, fuel + 1, 0, _, shallow, _, _ => by simp [Json.depth] at shallow
  | .arr (x :: xs), h, fuel + 1, 0, _, shallow, _, _ => by simp [Json.depth] at shallow
  | .arr (x :: xs), h, fuel + 1, depth + 1, enough, shallow, rest, next => by
    rw [isRanged] at h
    rw [size] at enough
    rw [Json.depth] at shallow
    have read := items_renderItems x xs h fuel depth (by omega) (by omega) rest
    simp only [rangedItems, Bool.and_eq_true] at h
    -- the first item does not begin with the bracket that would end an empty array
    obtain ⟨c, r, hc, opening⟩ := renderOnto_eq_cons h.1 (renderItems (']' :: rest) xs)
    rw [hc] at read
    rw [renderOnto, value, hc, skipBlanks_cons opening.1]
    simp [opening.2, read, reread, Node.ofJson]
  | .obj [], _, fuel + 1, depth + 1, _, _, rest, _ => by
    rw [renderOnto, value, skipBlanks_cons (by decide)]
    rfl
  | .obj [], _, fuel + 1, 0, _, shallow, _, _ => by simp [Json.depth] at shallow
  | .obj ((k, v) :: ms), h, fuel + 1, 0, _, shallow, _, _ => by simp [Json.depth] at shallow
  | .obj ((k, v) :: ms), h, fuel + 1, depth + 1, enough, shallow, rest, _ => by
    rw [isRanged] at h
    rw [size] at enough
    rw [Json.depth] at shallow
    have read := members_renderMembers k v ms h fuel depth (by omega) (by omega) rest
    rw [renderOnto, renderString, List.cons_append, value]
    simp [skipBlanks_mark, read, reread, Node.ofJson]
/-- `value_renderOnto` for the items of an array. -/
theorem items_renderItems : (x : Json) → (xs : List Json) → rangedItems (x :: xs) = true →
    (fuel depth : Nat) → 3 * sizeItems (x :: xs) + 2 ≤ fuel → depthItems (x :: xs) ≤ depth →
    (rest : List Char) →
    items nothingForeign fuel depth (renderOnto (renderItems (']' :: rest) xs) x) =
      (Node.ofItems (rereadItems (x :: xs)), none, some rest)
  | x, xs, h, 0, depth, enough, shallow, rest => by omega
  | x, xs, h, fuel + 1, depth, enough, shallow, rest => by
    have positive := size_pos x
    rw [sizeItems] at enough
    rw [depthItems] at shallow
    simp only [rangedItems, Bool.and_eq_true] at h
    have first := value_renderOnto x h.1 fuel depth (by omega) (by omega) _
      (delimited_renderItems xs rest)
    rw [items, first]
    cases xs with
    | nil => simp [renderItems, skipBlanks_mark, rereadItems, Node.ofItems]
    | cons y ys =>
      have later := items_renderItems y ys h.2 fuel depth (by omega) (by omega) rest
      have hy := h.2
      simp only [rangedItems, Bool.and_eq_true] at hy
      obtain ⟨c, r, hc, opening⟩ := renderOnto_eq_cons hy.1 (renderItems (']' :: rest) ys)
      rw [hc] at later
      rw [renderItems, hc]
      simp [skipBlanks_mark, skipBlanks_cons opening.1, opening.2, later, rereadItems, Node.ofItems]
/-- `value_renderOnto` for the members of an object, from after the opening quote of a key on. -/
theorem members_renderMembers : (k : String) → (v : Json) → (ms : List (String × Json)) →
    rangedMembers ((k, v) :: ms) = true → (fuel depth : Nat) →
    3 * sizeMembers ((k, v) :: ms) + 2 ≤ fuel → depthMembers ((k, v) :: ms) ≤ depth →
    (rest : List Char) →
    members nothingForeign fuel depth
        (k.toList.flatMap escapeChar ++
          '"' :: ':' :: renderOnto (renderMembers ('}' :: rest) ms) v) =
      (Node.ofMembers (rereadMembers ((k, v) :: ms)), none, some rest)
  | _, _, _, _, 0, _, enough, _, _ => by omega
  | _, _, _, _, 1, _, enough, _, _ => by
    rw [sizeMembers] at enough
    omega
  | k, v, ms, h, fuel + 2, depth, enough, shallow, rest => by
    have positive := size_pos v
    rw [sizeMembers] at enough
    rw [depthMembers] at shallow
    simp only [rangedMembers, Bool.and_eq_true] at h
    have first := value_renderOnto v h.1 fuel depth (by omega) (by omega) _
      (delimited_renderMembers ms rest)
    obtain ⟨c, r, hc, opening⟩ := renderOnto_eq_cons h.1 (renderMembers ('}' :: rest) ms)
    -- the key, the colon and the value, each perhaps after blanks
    rw [members, scan_string]
    simp only [afterKey]
    rw [skipBlanks_cons (by decide)]
    simp only
    rw [hc, skipBlanks_cons opening.1, ← hc, first]
    cases ms with
    | nil => simp [renderMembers, skipBlanks_mark, rereadMembers, Node.ofMembers]
    | cons e es =>
      obtain ⟨j, w⟩ := e
      have later := members_renderMembers j w es h.2 fuel depth (by omega) (by omega) rest
      simp [renderMembers, renderString, skipBlanks_mark, later, rereadMembers, Node.ofMembers]
end

/-! ## Whole texts -/

mutual
/-- A value is written with at least one character for every value inside it. -/
theorem size_le_length : (v : Json) → v.isRanged = true → (rest : List Char) →
    v.size + rest.length ≤ (renderOnto rest v).length
  | .null, _, rest => by simp [size, renderOnto]; omega
  | .bool true, _, rest => by simp [size, renderOnto]; omega
  | .bool false, _, rest => by simp [size, renderOnto]; omega
  | .num n, h, rest => by
    obtain ⟨k, v, written⟩ := exists_writtenAs_of_isRanged h
    obtain ⟨c, r, hc, -⟩ := written.render_eq_cons
    simp [size, renderOnto, hc]
    omega
  | .str s, _, rest => by simp [size, renderOnto, renderString]; omega
  | .arr [], _, rest => by simp [size, sizeItems, renderOnto]; omega
  | .arr (x :: xs), h, rest => by
    simp only [isRanged, rangedItems, Bool.and_eq_true] at h
    have first := size_le_length x h.1 (renderItems (']' :: rest) xs)
    have later := sizeItems_le_length xs h.2 (']' :: rest)
    simp only [size, sizeItems, renderOnto, List.length_cons] at first later ⊢
    omega
  | .obj [], _, rest => by simp [size, sizeMembers, renderOnto]; omega
  | .obj ((k, v) :: ms), h, rest => by
    simp only [isRanged, rangedMembers, Bool.and_eq_true] at h
    have first := size_le_length v h.1 (renderMembers ('}' :: rest) ms)
    have later := sizeMembers_le_length ms h.2 ('}' :: rest)
    simp only [size, sizeMembers, renderOnto, List.length_cons, List.length_append] at first later ⊢
    omega
/-- `size_le_length` for the items after the first one. -/
theorem sizeItems_le_length : (xs : List Json) → rangedItems xs = true → (rest : List Char) →
    sizeItems xs + rest.length ≤ (renderItems rest xs).length
  | [], _, rest => by simp [sizeItems, renderItems]
  | x :: xs, h, rest => by
    simp only [rangedItems, Bool.and_eq_true] at h
    have first := size_le_length x h.1 (renderItems rest xs)
    have later := sizeItems_le_length xs h.2 rest
    simp only [sizeItems, renderItems, List.length_cons] at first later ⊢
    omega
/-- `size_le_length` for the members after the first one. -/
theorem sizeMembers_le_length : (ms : List (String × Json)) → rangedMembers ms = true →
    (rest : List Char) → sizeMembers ms + rest.length ≤ (renderMembers rest ms).length
  | [], _, rest => by simp [sizeMembers, renderMembers]
  | (k, v) :: ms, h, rest => by
    simp only [rangedMembers, Bool.and_eq_true] at h
    have first := size_le_length v h.1 (renderMembers rest ms)
    have later := sizeMembers_le_length ms h.2 rest
    simp only [sizeMembers, renderMembers, List.length_cons, List.length_append] at first later ⊢
    omega
end

end Reader

open Reader in
/-- The text of a value reads as the value with its numbers reread. -/
theorem ofString_render_reread {v : Json} (ranged : v.isRanged = true)
    (shallow : v.depth ≤ Reader.maxDepth) :
    Reading.ofString v.render = Reading.ofJson v.reread := by
  -- the reader allows four steps for every character, which is more than it needs
  have enough : 3 * v.size ≤ 4 * (renderOnto [] v).length + 4 := by
    have := size_le_length v ranged []
    simp only [List.length_nil] at this
    omega
  obtain ⟨c, r, hc, opening⟩ := renderOnto_eq_cons ranged []
  have read := value_renderOnto v ranged _ _ enough shallow [] delimited_nil
  show readWith nothingForeign v.render.toList = _
  rw [render, String.toList_ofList, readWith]
  rw [hc] at read ⊢
  rw [skipBlanks_cons opening.1, read]
  rfl

/-- The octets of a value's text read as the value with its numbers reread. -/
theorem ofOctets_render_reread {v : Json} (ranged : v.isRanged = true)
    (shallow : v.depth ≤ Reader.maxDepth) :
    Reading.ofOctets (Text.encode v.render) = Reading.ofJson v.reread := by
  rw [Reading.ofOctets, Text.decode?_encode]
  exact ofString_render_reread ranged shallow

/-- A value that was written decodes as the value with its numbers reread. -/
theorem decodeOctets_render_reread {α : Type} (d : Decoder α) {v : Json}
    (ranged : v.isRanged = true) (shallow : v.depth ≤ Reader.maxDepth) :
    decodeOctets d (Text.encode v.render) = d (Node.ofJson v.reread) := by
  rw [decodeOctets, ofOctets_render_reread ranged shallow, Reading.decode, Reading.ofJson]
  cases d (Node.ofJson v.reread) <;> rfl

/-- A value with integers of 64 bits that was written decodes as the value itself. -/
theorem decodeOctets_render {α : Type} (d : Decoder α) {v : Json} (integral : v.isIntegral = true)
    (shallow : v.depth ≤ Reader.maxDepth) :
    decodeOctets d (Text.encode v.render) = d (Node.ofJson v) := by
  obtain ⟨ranged, same⟩ := reread_of_isIntegral v integral
  rw [decodeOctets_render_reread d ranged shallow, same]

/-- The text of a value with integers of 64 bits decodes as the value itself. -/
theorem decodeText_render {α : Type} (d : Decoder α) {v : Json} (integral : v.isIntegral = true)
    (shallow : v.depth ≤ Reader.maxDepth) : decodeText d v.render = d (Node.ofJson v) := by
  obtain ⟨ranged, same⟩ := reread_of_isIntegral v integral
  rw [decodeText, ofString_render_reread ranged shallow, same, Reading.decode, Reading.ofJson]
  cases d (Node.ofJson v) <;> rfl

end PluginKit.Json
