import PluginKit.Json.Decode
import PluginKit.Proofs.Table

/-!
# Decoding values at hand

A decoder reads a value as an `a` when it takes the reading of the value to `a` (`Decoder.Reads`). A
record is read field by field, each from the member under its name, wherever the member stands; the
value of a field that is left out is its default.

## Main statements

- `sorted_of_isOrdered`: a value whose objects ascend by key is sorted already.
- `reads_record`: a record is read from an object that has no key twice.
- `readsFrom_optional`, `readsFrom_nonempty`: fields that are left out when there is nothing to say.
- `dict_string_iff`: a table of strings is read from a whole object of strings and from nothing else.
- `decodeValue_record_tells`: what is read as a record has what its fields tell of the object.
-/

namespace PluginKit.Json

/-! ## Values in order -/

mutual
/-- Whether the members of every object inside a value ascend by key. -/
def isOrdered : Json → Bool
  | .arr xs => orderedItems xs
  | .obj ms => decide (Table.Ascending ms) && orderedMembers ms
  | _ => true
/-- `isOrdered` for every item. -/
def orderedItems : List Json → Bool
  | [] => true
  | x :: xs => isOrdered x && orderedItems xs
/-- `isOrdered` for the value of every member. -/
def orderedMembers : List (String × Json) → Bool
  | [] => true
  | (_, v) :: ms => isOrdered v && orderedMembers ms
end

mutual
/-- A value whose objects ascend by key is sorted already. -/
theorem sorted_of_isOrdered : (v : Json) → v.isOrdered = true → v.sorted = v
  | .null, _ => rfl
  | .bool _, _ => rfl
  | .num _, _ => rfl
  | .str _, _ => rfl
  | .arr xs, h => by rw [sorted, sortedItems_of_ordered xs h]
  | .obj ms, h => by
    simp only [isOrdered, Bool.and_eq_true, decide_eq_true_eq] at h
    rw [sorted, sortedMembers_of_ordered ms h.2, Table.ofList_of_ascending h.1]
/-- `sorted_of_isOrdered` item by item. -/
theorem sortedItems_of_ordered : (xs : List Json) → orderedItems xs = true → sortedItems xs = xs
  | [], _ => rfl
  | x :: xs, h => by
    simp only [orderedItems, Bool.and_eq_true] at h
    rw [sortedItems, sorted_of_isOrdered x h.1, sortedItems_of_ordered xs h.2]
/-- `sorted_of_isOrdered` member by member. -/
theorem sortedMembers_of_ordered :
    (ms : List (String × Json)) → orderedMembers ms = true → sortedMembers ms = ms
  | [], _ => rfl
  | (k, v) :: ms, h => by
    simp only [orderedMembers, Bool.and_eq_true] at h
    rw [sortedMembers, sorted_of_isOrdered v h.1, sortedMembers_of_ordered ms h.2]
end

theorem orderedMembers_iff (ms : List (String × Json)) :
    orderedMembers ms = true ↔ ∀ e ∈ ms, e.2.isOrdered = true := by
  induction ms with
  | nil => simp [orderedMembers]
  | cons e ms ih => simp [orderedMembers, ih]

theorem sortedMembers_eq_map (ms : List (String × Json)) :
    sortedMembers ms = ms.map fun e => (e.1, e.2.sorted) := by
  induction ms with
  | nil => rfl
  | cons e ms ih => rw [sortedMembers, ih, List.map_cons]

/-- A member that has its key to itself is found in the sorted object. -/
theorem get?_of_sorted {ms ms' : List (String × Json)} {k : String} {v : Json}
    (object : (obj ms).sorted = .obj ms') (mem : (k, v) ∈ ms)
    (only : ∀ e ∈ ms, e.1 = k → e.2 = v) : Table.get? ms' k = some v.sorted := by
  rw [sorted, sortedMembers_eq_map] at object
  cases object
  apply Table.get?_foldl_insert_of_only
  · intro e found key
    obtain ⟨d, member, rfl⟩ := List.mem_map.1 found
    rw [only d member key]
  · right
    exact ⟨(k, v.sorted), List.mem_map.2 ⟨(k, v), mem, rfl⟩, rfl⟩

theorem ascending_of_sorted {v : Json} {ms : List (String × Json)} (object : v.sorted = .obj ms) :
    Table.Ascending ms := by
  cases v with
  | obj members =>
    rw [sorted] at object
    cases object
    exact Table.ascending_ofList _
  | _ => cases object

/-- Strings are in order. -/
theorem orderedItems_map_str (xs : List String) : orderedItems (xs.map .str) = true := by
  induction xs with
  | nil => rfl
  | cons x xs ih => exact ih

namespace Node

mutual
/-- A value at hand is stepped over without a fault. -/
theorem skip_ofJson : (v : Json) → skip (ofJson v) = none
  | .null => rfl
  | .bool _ => rfl
  | .num _ => rfl
  | .str _ => rfl
  | .arr xs => by rw [ofJson, skip]; exact skipItems_ofItems xs
  | .obj ms => by rw [ofJson, skip]; exact skipMembers_ofMembers ms
/-- `skip_ofJson` item by item. -/
theorem skipItems_ofItems : (xs : List Json) → skipItems none (ofItems xs) = none
  | [] => rfl
  | x :: xs => by rw [ofItems, skipItems, skip_ofJson x, skipItems_ofItems xs]; rfl
/-- `skip_ofJson` member by member. -/
theorem skipMembers_ofMembers :
    (ms : List (String × Json)) → skipMembers none (ofMembers ms) = none
  | [] => rfl
  | (k, v) :: ms => by rw [ofMembers, skipMembers, skip_ofJson v, skipMembers_ofMembers ms]; rfl
end

end Node

namespace Decoder

variable {α β : Type}

/-- A decoder reads a value as `a`. -/
def Reads (d : Decoder α) (v : Json) (a : α) : Prop := d (Node.ofJson v) = .ok a

/-! ## Plain values -/

theorem reads_string (s : String) : string.Reads (.str s) s := rfl

theorem reads_path (s : String) : path.Reads (.str s) s := rfl

theorem reads_bool (b : Bool) : bool.Reads (.bool b) b := rfl

/-- A value is read with its members in order. -/
theorem reads_any_sorted (v : Json) : any.Reads v v.sorted := by
  rw [Reads, any, Node.value_ofJson]

theorem reads_any {v : Json} (h : v.isOrdered = true) : any.Reads v v := by
  have read := reads_any_sorted v
  rwa [sorted_of_isOrdered v h] at read

theorem reads_natural {bits n : Nat} (what : String) (h : n < Nat.pow 2 bits) :
    (natural bits what).Reads (.nat n) n := by
  simp only [Reads, Json.nat, Node.ofJson, natural]
  rw [if_pos ⟨Int.natCast_nonneg n, h⟩, Int.toNat_natCast]

theorem reads_unsigned {bits n : Nat} (h : n < Nat.pow 2 bits) :
    (unsigned bits).Reads (.nat n) n :=
  reads_natural _ h

theorem reads_optional {d : Decoder α} {v : Json} {a : α} (h : d.Reads v a)
    (present : v.isNull = false) : (optional d).Reads v (some a) := by
  unfold Reads at h ⊢
  cases v with
  | null => cases present
  | bool b => rw [Node.ofJson] at h ⊢; simp only [optional, h]
  | num n => rw [Node.ofJson] at h ⊢; simp only [optional, h]
  | str s => rw [Node.ofJson] at h ⊢; simp only [optional, h]
  | arr xs => rw [Node.ofJson] at h ⊢; simp only [optional, h]
  | obj ms => rw [Node.ofJson] at h ⊢; simp only [optional, h]

theorem reads_map {d : Decoder α} {v : Json} {a : α} (h : d.Reads v a) (f : α → β) :
    (d.map f).Reads v (f a) := by
  unfold Reads at h ⊢
  simp only [map, h]

theorem reads_refine {d : Decoder α} {v : Json} {a : α} {b : β} (h : d.Reads v a)
    {f : α → Except String β} (hf : f a = .ok b) : (d.refine f).Reads v b := by
  unfold Reads at h ⊢
  simp only [refine, h, hf]

/-- A list is read item by item. -/
theorem reads_map_list {d : Decoder β} {f : α → Json} {g : α → β} {xs : List α}
    (h : ∀ x ∈ xs, d.Reads (f x) (g x)) : (list d).Reads (.arr (xs.map f)) (xs.map g) := by
  have all : items d (Node.ofItems (xs.map f)) = .ok (xs.map g) := by
    induction xs with
    | nil => rfl
    | cons x xs ih =>
      have first : d (Node.ofJson (f x)) = .ok (g x) := h x List.mem_cons_self
      have later := ih fun y hy => h y (List.mem_cons_of_mem _ hy)
      rw [List.map_cons, Node.ofItems, items, first]
      simp only [later, List.map_cons]
  unfold Reads
  rw [Node.ofJson, list, all]
  rfl

theorem reads_list {d : Decoder α} {f : α → Json} {xs : List α} (h : ∀ x ∈ xs, d.Reads (f x) x) :
    (list d).Reads (.arr (xs.map f)) xs := by
  have read := reads_map_list (g := id) h
  rwa [List.map_id] at read

/-- A table is read entry by entry. -/
theorem reads_table {κ : Type} [Ord κ] [Std.TransOrd κ] {key : String → Except DecodeFault κ}
    {name : κ → String} {d : Decoder β} {f : α → Json} {g : α → β} {t : Table κ α}
    (ascending : t.Ascending) (named : ∀ e ∈ t, key (name e.1) = .ok e.1)
    (h : ∀ e ∈ t, d.Reads (f e.2) (g e.2)) :
    (table key d).Reads (.obj (t.map fun e => (name e.1, f e.2))) (t.mapValues g) := by
  have all : ∀ l : List (κ × α), (∀ e ∈ l, e ∈ t) →
      entries key d (Node.ofMembers (l.map fun e => (name e.1, f e.2))) =
        .ok (Table.mapValues g l) := by
    intro l inside
    induction l with
    | nil => rfl
    | cons e l ih =>
      have mem := inside e List.mem_cons_self
      have later := ih fun e hl => inside e (List.mem_cons_of_mem _ hl)
      have value : d (Node.ofJson (f e.2)) = .ok (g e.2) := h e mem
      rw [List.map_cons, Node.ofMembers, entries, named e mem]
      simp only [value, later]
      rfl
  unfold Reads
  rw [Node.ofJson, table, all t fun _ mem => mem]
  show Except.ok (Table.ofList (Table.mapValues g t)) = _
  rw [Table.ofList_of_ascending (Table.ascending_mapValues_iff.2 ascending)]

/-- A table of strings is read entry by entry. -/
theorem reads_dict {t : Table String String} (h : t.Ascending) :
    (dict string).Reads (.obj (t.mapValues Json.str)) t := by
  have read : (table .ok string).Reads (.obj (t.map fun e => (id e.1, .str e.2))) (t.mapValues id) :=
    reads_table h (fun _ _ => rfl) fun e _ => reads_string e.2
  have same : t.mapValues id = t := List.map_id' t
  rwa [same] at read

end Decoder

/-! ## Records -/

namespace Fields

variable {α β : Type}

/-- The fields are read as `a` from an object with the given members. -/
def ReadsFrom (f : Fields α) (ms : List (String × Json)) (a : α) : Prop :=
  ∀ place, f.read place (.byName (Node.ofMembers ms) none) = .ok a

theorem readsFrom_pure (a : α) (ms : List (String × Json)) : (Fields.pure a).ReadsFrom ms a :=
  fun _ => rfl

theorem readsFrom_seq {f : Fields (α → β)} {x : Fields α} {ms : List (String × Json)} {g : α → β}
    {a : α} (hf : f.ReadsFrom ms g) (hx : x.ReadsFrom ms a) : (f <*> x).ReadsFrom ms (g a) := by
  intro place
  show (f.seq x).read place _ = _
  have second := hx (place + f.names.length)
  simp only [seq, hf place, second]

theorem readsFrom_map {x : Fields α} {ms : List (String × Json)} {a : α} (g : α → β)
    (hx : x.ReadsFrom ms a) : (g <$> x).ReadsFrom ms (g a) :=
  readsFrom_seq (readsFrom_pure g ms) hx

theorem find_ofMembers (name : String) (ms : List (String × Json)) :
    (find name (Node.ofMembers ms)).map Prod.snd = (ms.lookup name).map Node.ofJson := by
  induction ms with
  | nil => rfl
  | cons e ms ih =>
    obtain ⟨k, v⟩ := e
    rw [Node.ofMembers, find, List.lookup_cons]
    by_cases h : k = name
    · subst h
      simp
    · have other : (name == k) = false := beq_eq_false_iff_ne.2 (Ne.symm h)
      rw [if_neg h, Option.map_map, other, ← ih]
      rfl

theorem readsFrom_field_some {name : String} {d : Decoder α} {absent : Except DecodeFault α}
    {beyond : Option α} {ms : List (String × Json)} {v : Json} {a : α}
    (there : ms.lookup name = some v) (h : d.Reads v a) :
    (field name d absent beyond).ReadsFrom ms a := by
  intro place
  -- what is found among the nodes is the node of what is found among the members
  have found := find_ofMembers name ms
  rw [there] at found
  obtain ⟨⟨i, x⟩, hx, rfl⟩ := Option.map_eq_some_iff.1 found
  simp only [field, hx]
  rw [show d _ = .ok a from h]
  rfl

theorem readsFrom_field_none {name : String} {d : Decoder α} {a : α} {beyond : Option α}
    {ms : List (String × Json)} (missing : ms.lookup name = none) :
    (field name d (.ok a) beyond).ReadsFrom ms a := by
  intro place
  have found := find_ofMembers name ms
  rw [missing] at found
  simp only [field, Option.map_eq_none_iff.1 found]
  rfl

theorem readsFrom_required {name : String} {d : Decoder α} {ms : List (String × Json)} {v : Json}
    {a : α} (there : ms.lookup name = some v) (h : d.Reads v a) :
    (required name d).ReadsFrom ms a :=
  readsFrom_field_some there h

theorem readsFrom_string {name s : String} {ms : List (String × Json)}
    (there : ms.lookup name = some (.str s)) : (required name .string).ReadsFrom ms s :=
  readsFrom_required there (Decoder.reads_string s)

/-- A field that may be left out, and then has its default. -/
theorem readsFrom_withDefault {name : String} {d : Decoder α} {value a : α}
    {ms : List (String × Json)} (h : ∀ v ∈ ms.lookup name, d.Reads v a)
    (absent : ms.lookup name = none → a = value) : (withDefault name d value).ReadsFrom ms a := by
  cases found : ms.lookup name with
  | none =>
    rw [absent found]
    exact readsFrom_field_none found
  | some v => exact readsFrom_field_some found (h v found)

/-- A field that is left out when there is no value. -/
theorem readsFrom_optional {name : String} {d : Decoder α} {ms : List (String × Json)}
    {f : α → Json} {o : Option α} (found : ms.lookup name = o.map f)
    (h : ∀ a ∈ o, d.Reads (f a) a ∧ (f a).isNull = false) :
    (withDefault name (Decoder.optional d) none).ReadsFrom ms o := by
  cases o with
  | none => exact readsFrom_field_none found
  | some a =>
    obtain ⟨read, present⟩ := h a rfl
    exact readsFrom_field_some found (Decoder.reads_optional read present)

theorem readsFrom_optionalString {name : String} {ms : List (String × Json)} {o : Option String}
    (found : ms.lookup name = o.map Json.str) :
    (withDefault name (Decoder.optional .string) none).ReadsFrom ms o :=
  readsFrom_optional found fun s _ => ⟨Decoder.reads_string s, rfl⟩

/-- A truth value that is left out when it is false. -/
theorem readsFrom_flag {name : String} {ms : List (String × Json)} {b : Bool}
    (found : ms.lookup name = if b then some (.bool true) else none) :
    (withDefault name .bool false).ReadsFrom ms b := by
  cases b with
  | false => exact readsFrom_field_none found
  | true => exact readsFrom_field_some found (Decoder.reads_bool true)

/-- A list or a table that is left out when it is empty. -/
theorem readsFrom_nonempty {name : String} {d : Decoder (List α)} {ms : List (String × Json)}
    {v : Json} {l : List α} (found : ms.lookup name = if l.isEmpty then none else some v)
    (h : d.Reads v l) : (withDefault name d []).ReadsFrom ms l := by
  cases l with
  | nil => exact readsFrom_field_none found
  | cons a l => exact readsFrom_field_some found h

/-! ## Members of records -/

@[simp] theorem lookup_ifSome (name key : String) (v : Option Json) :
    (ifSome key v).lookup name = if name == key then v else none := by
  cases v with
  | none => cases h : name == key <;> simp [ifSome]
  | some v => cases h : name == key <;> simp [ifSome, List.lookup_cons, h]

@[simp] theorem lookup_memberIf (name key : String) (cond : Bool) (v : Json) :
    (memberIf cond key v).lookup name = if name == key ∧ cond then some v else none := by
  cases cond <;> cases h : name == key <;> simp [memberIf, List.lookup_cons, h]

theorem keys_ifSome (key : String) (v : Option Json) :
    ((ifSome key v).map Prod.fst).Sublist [key] := by
  cases v with
  | none => exact List.nil_sublist _
  | some v => exact List.Sublist.refl _

theorem keys_memberIf (cond : Bool) (key : String) (v : Json) :
    ((memberIf cond key v).map Prod.fst).Sublist [key] := by
  cases cond with
  | false => exact List.nil_sublist _
  | true => exact List.Sublist.refl _

theorem duplicate_of_nodup {names seen : List String} {ms : List (String × Json)}
    (once : (ms.map Prod.fst).Nodup) (fresh : ∀ k ∈ ms.map Prod.fst, k ∉ seen) (i : Nat) :
    duplicate names seen (Node.ofMembers ms) i = none := by
  induction ms generalizing seen i with
  | nil => rfl
  | cons e ms ih =>
    obtain ⟨k, v⟩ := e
    rw [List.map_cons, List.nodup_cons] at once
    rw [List.map_cons] at fresh
    have unseen := fresh k List.mem_cons_self
    rw [Node.ofMembers, duplicate, if_neg fun h => unseen h.2]
    -- the key joins those that were seen, and does not come again
    refine ih once.2 ?_ _
    intro j hj
    rw [List.mem_cons, not_or]
    refine ⟨?_, fresh j (List.mem_cons_of_mem _ hj)⟩
    rintro rfl
    exact once.1 hj

theorem unknown_ofMembers (names : List String) (ms : List (String × Json)) (i : Nat) :
    unknown names (Node.ofMembers ms) i = none := by
  induction ms generalizing i with
  | nil => rfl
  | cons e ms ih =>
    obtain ⟨k, v⟩ := e
    rw [Node.ofMembers, unknown]
    split
    · exact ih _
    · rw [Node.skip_ofJson]
      exact ih _

end Fields

/-- A record is read from an object that has no key twice. -/
theorem Decoder.reads_record {α : Type} {what : String} {fields : Fields α}
    {ms : List (String × Json)} {a : α} (h : fields.ReadsFrom ms a)
    (once : (ms.map Prod.fst).Nodup) : (Decoder.record what fields).Reads (.obj ms) a := by
  have stray : Fields.strayFault fields.names (Node.ofMembers ms) none = none := by
    rw [Fields.strayFault, Fields.duplicate_of_nodup once (by simp), Fields.unknown_ofMembers]
    rfl
  unfold Reads
  rw [Node.ofJson, record, h 0, stray]

/-! ## What decoders take -/

variable {α : Type}

theorem mismatched_ne_ok (expected : String) (a : α) : (node : Node) → mismatched expected node ≠ .ok a
  | .deep inner => mismatched_ne_ok expected a inner
  | .null => nofun
  | .bool _ => nofun
  | .num _ => nofun
  | .str _ => nofun
  | .arr _ _ => nofun
  | .obj _ _ => nofun
  | .flaw _ _ => nofun

namespace Decoder

theorem string_eq_ok_iff {node : Node} {s : String} : string node = .ok s ↔ node = .str s := by
  constructor
  · intro read
    unfold string at read
    split at read
    · cases read
      rfl
    · exact absurd read (mismatched_ne_ok _ _ _)
  · rintro rfl
    rfl

/-- Members are read as strings when they are strings. -/
theorem entries_string_iff {members : List (String × Node)} {pairs : List (String × String)} :
    entries .ok string members = .ok pairs ↔ members = pairs.map fun e => (e.1, .str e.2) := by
  induction members generalizing pairs with
  | nil =>
    constructor
    · intro read
      cases read
      rfl
    · intro none
      rw [List.map_eq_nil_iff.1 none.symm]
      rfl
  | cons member members ih =>
    obtain ⟨key, node⟩ := member
    constructor
    · intro read
      simp only [entries] at read
      split at read
      · cases read
      · next s first =>
        split at read
        · cases read
        · next rest later =>
          cases read
          rw [ih.1 later, string_eq_ok_iff.1 first]
          rfl
    · intro all
      obtain ⟨e, rest, rfl, first, later⟩ := List.map_eq_cons_iff.1 all.symm
      cases first
      simp only [entries, string, ih.2 later.symm]

theorem dict_string_iff {node : Node} {t : Table String String} : dict string node = .ok t ↔
    ∃ pairs : List (String × String),
      node = .obj (pairs.map fun e => (e.1, .str e.2)) none ∧ t = Table.ofList pairs := by
  constructor
  · intro read
    unfold dict table at read
    split at read
    · split at read
      · cases read
      · next members stop _ pairs all =>
        cases stop with
        | some s => cases read
        | none =>
          cases read
          exact ⟨pairs, by rw [entries_string_iff.1 all], rfl⟩
    · cases read
    · exact absurd read (mismatched_ne_ok _ _ _)
  · rintro ⟨pairs, rfl, rfl⟩
    simp only [dict, table, entries_string_iff.2 rfl, ending]

end Decoder

/-- A reading decodes if its value does and nothing follows. -/
theorem Reading.decode_eq_ok_iff {d : Decoder α} {reading : Reading} {a : α} :
    reading.decode d = .ok a ↔ d reading.root = .ok a ∧ reading.trailing = false := by
  unfold Reading.decode
  cases d reading.root with
  | error fault => exact ⟨nofun, fun h => nomatch h.1⟩
  | ok b => cases reading.trailing <;> simp

/-! ## What fields tell of the members of an object -/

variable {β : Type} {ms : List (String × Json)}

/-- Every value that fields read from an object has a property. -/
def Fields.Tells (f : Fields α) (ms : List (String × Json)) (P : α → Prop) : Prop :=
  ∀ place a, f.read place (.byName (Node.ofMembers ms) none) = .ok a → P a

/-- A property that the first fields ensure for every value of the last one holds for all of them
together. -/
theorem Fields.tells_seq {f : Fields (α → β)} {x : Fields α} {P : β → Prop}
    (first : f.Tells ms fun g => ∀ a, P (g a)) : (f <*> x).Tells ms P := by
  intro place b read
  replace read : (f.seq x).read place _ = _ := read
  simp only [Fields.seq] at read
  split at read
  · next g a left _ =>
    cases read
    exact first place g left a
  all_goals cases read

theorem Fields.tells_map {x : Fields α} {g : α → β} {P : β → Prop}
    (only : x.Tells ms fun a => P (g a)) : (g <$> x).Tells ms P := by
  intro place b read
  replace read : ((Fields.pure g).seq x).read place _ = _ := read
  simp only [Fields.seq, Fields.pure] at read
  split at read
  · next h a left right =>
    cases left
    cases read
    exact only _ a right
  all_goals cases read

theorem Fields.tells_field {name : String} {d : Decoder α} {absent : Except DecodeFault α}
    {beyond : Option α} {v : Json} {P : α → Prop} (there : ms.lookup name = some v)
    (reads : ∀ a, d.Reads v a → P a) : (field name d absent beyond).Tells ms P := by
  intro place a read
  have found := find_ofMembers name ms
  rw [there] at found
  obtain ⟨⟨i, x⟩, hx, rfl⟩ := Option.map_eq_some_iff.1 found
  simp only [field, hx] at read
  apply reads
  cases taken : d (Node.ofJson v) with
  | error e =>
    rw [taken] at read
    cases read
  | ok b =>
    rw [taken] at read
    cases read
    exact taken

/-- A value that is read from an object has what its fields tell. -/
theorem decodeValue_record_tells {what : String} {f : Fields α} {v : Json} {P : α → Prop} {a : α}
    (object : v.sorted = .obj ms) (tells : f.Tells ms P)
    (read : decodeValue (Decoder.record what f) v = .ok a) : P a := by
  rw [decodeValue, object, Node.ofJson] at read
  simp only [Decoder.record] at read
  split at read
  · next b fields _ =>
    cases read
    exact tells 0 _ fields
  all_goals cases read

end PluginKit.Json
