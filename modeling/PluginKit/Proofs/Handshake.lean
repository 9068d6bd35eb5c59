import PluginKit.Handshake
import PluginKit.Proofs.Net.Line
import PluginKit.Proofs.Text
import PluginKit.Serve.Server

/-!
# Addresses among lines

A host reads the output of a plugin line by line. A line that is text and no address is passed over, and
an address ends the reading at the end of its line. A line that is no text ends the reading as well,
though it is no more an address than the lines that are passed over: the address behind it is not found.

## Main statements

- `readAddress_ended`: lines without an address are passed over as long as they are text.
- `found_unless_garbled`: which streams an address is found in, and what becomes of the others.
- `garbage_hides_address`: one octet that is no text, and the address after it is not found.
-/

namespace PluginKit.Handshake

open Text (Octets)

variable {id : PluginId} {s line rest : List UInt8}

/-! ## Lines of a stream -/

/-- Lines, each with its end. -/
def ended (lines : List (List UInt8)) : List UInt8 := lines.flatMap (· ++ [0x0A])

/-- The content of a line. A carriage return before its end belongs to the end. -/
def content (line : List UInt8) : List UInt8 :=
  if line.getLast? = some 0x0D then line.dropLast else line

theorem content_of_not_mem (plain : 0x0D ∉ line) : content line = line := by
  have other : line.getLast? ≠ some 0x0D := fun last => plain (List.mem_of_getLast? last)
  rw [content, if_neg other]

/-- A line is read up to its end. -/
theorem nextLine_append (whole : 0x0A ∉ line) (rest : List UInt8) :
    nextLine (line ++ 0x0A :: rest) = some (content line, rest) := by
  have inside : ∀ o ∈ line, (o != 0x0A) = true := by
    intro o member
    simp only [bne_iff_ne]
    rintro rfl
    exact whole member
  have taken : (line ++ 0x0A :: rest).takeWhile (· != 0x0A) = line := by
    rw [List.takeWhile_append_of_pos inside, List.takeWhile_cons_of_neg (by simp), List.append_nil]
  have left : (line ++ 0x0A :: rest).dropWhile (· != 0x0A) = 0x0A :: rest := by
    rw [List.dropWhile_append_of_pos inside, List.dropWhile_cons_of_neg (by simp)]
  unfold nextLine
  simp only [taken, left, content]
  split
  · next nothing => simp at nothing
  · next _ _ none_ _ => cases none_
  · next _ _ _ _ more _ =>
    cases more
    rfl

/-- The contents of the lines of a stream. The last one need not have an end. -/
def linesOf (s : List UInt8) : List (List UInt8) :=
  match _h : nextLine s with
  | none => []
  | some (line, rest) => line :: linesOf rest
termination_by s.length
decreasing_by exact nextLine_length _h

theorem linesOf_of_none (nothing : nextLine s = none) : linesOf s = [] := by
  rw [linesOf]
  split
  · rfl
  · next other => cases nothing.symm.trans other

theorem linesOf_of_next (next : nextLine s = some (line, rest)) : linesOf s = line :: linesOf rest := by
  rw [linesOf]
  split
  · next none_ => cases next.symm.trans none_
  · next other =>
    cases next.symm.trans other
    rfl

/-! ## What a line tells -/

/-- The text of a line, if it is text. -/
def text? (line : List UInt8) : Option String := Text.decode? (ByteArray.mk line.toArray)

/-- Whether a line is text. -/
def isText (line : List UInt8) : Bool := (text? line).isSome

/-- The place that a line reads as, if it reads as an address. -/
def place? (line : List UInt8) : Option Place := (text? line).bind Place.ofLine?

/-- The lines of a text are text. -/
theorem text?_encode (t : String) : text? (Text.encode t).toList = some t := by
  rw [text?, Text.mk_toList, Text.decode?_encode]

/-! ## Reading on -/

/-- A stream without a line fails because it was closed. -/
theorem readAddress_of_none (nothing : nextLine s = none) : readAddress id s = .error (closed id) := by
  rw [readAddress]
  split
  · rfl
  · next other => cases nothing.symm.trans other

/-- A line without an address is passed over if it is text. -/
theorem readAddress_of_next (next : nextLine s = some (line, rest)) (mute : place? line = none) :
    readAddress id s = if isText line then readAddress id rest else .error (garbled id) := by
  rw [readAddress]
  split
  · next none_ => cases next.symm.trans none_
  · next other =>
    cases next.symm.trans other
    rw [isText, text?]
    rw [place?, text?] at mute
    cases decoded : Text.decode? (ByteArray.mk line.toArray) with
    | none => rfl
    | some t =>
      rw [decoded, Option.bind_some] at mute
      simp only [mute, Option.isSome_some, if_true]

/-- Lines without an address are passed over as long as they are text. -/
theorem readAddress_ended {lines : List (List UInt8)} (whole : ∀ l ∈ lines, 0x0A ∉ l)
    (mute : ∀ l ∈ lines, place? (content l) = none) (rest : List UInt8) :
    readAddress id (ended lines ++ rest) =
      if (lines.map content).all isText then readAddress id rest else .error (garbled id) := by
  induction lines with
  | nil => simp [ended]
  | cons l ls ih =>
    -- the first line decides alone if it is no text, and otherwise leaves the question to the others
    have next : nextLine (ended (l :: ls) ++ rest) = some (content l, ended ls ++ rest) := by
      simpa [ended] using nextLine_append (whole l List.mem_cons_self) (ended ls ++ rest)
    have later := ih (fun m member => whole m (List.mem_cons_of_mem l member))
      (fun m member => mute m (List.mem_cons_of_mem l member))
    rw [readAddress_of_next next (mute l List.mem_cons_self), later, List.map_cons, List.all_cons]
    cases isText (content l) with
    | false => rfl
    | true => simp

/-- In a stream without an address none is found. -/
theorem readAddress_of_mute (id : PluginId) (s : List UInt8) (mute : ∀ l ∈ linesOf s, place? l = none) :
    readAddress id s = .error (if (linesOf s).all isText then closed id else garbled id) := by
  fun_induction linesOf s with
  | case1 s nothing => exact readAddress_of_none nothing
  | case2 s line rest next ih =>
    have later := ih fun l member => mute l (List.mem_cons_of_mem line member)
    rw [readAddress_of_next next (mute line List.mem_cons_self), later, List.all_cons]
    cases isText line with
    | false => rfl
    | true => simp

/-! ## The announced address -/

/-- An instance on a port prints one line, which holds the address. -/
theorem nextLine_announcement {a : Net.Address} (bare : ∀ c ∈ a.text.toList, Net.Bare c)
    (rest : List UInt8) : nextLine ((Text.encode (Server.announcement (.tcp a))).toList ++ rest) =
      some ((Text.encode a.text).toList, rest) := by
  -- ends of lines are blank, and the text of an address has no blanks
  have noEnd : 0x0A ∉ (Text.encode a.text).toList := fun member =>
    absurd (bare '\n' ((Text.mem_toList_encode_iff (by decide)).1 member)).1 (by decide)
  have noReturn : 0x0D ∉ (Text.encode a.text).toList := fun member =>
    absurd (bare '\r' ((Text.mem_toList_encode_iff (by decide)).1 member)).1 (by decide)
  have octets : (Text.encode (Server.announcement (.tcp a))).toList ++ rest =
      (Text.encode a.text).toList ++ 0x0A :: rest := by
    have newline : String.utf8EncodeChar '\n' = [0x0A] := by decide
    simp [Server.announcement, Text.toList_encode, newline]
  rw [octets, nextLine_append noEnd, content_of_not_mem noReturn]

/-- The announced address is read, and what follows stays unread. -/
theorem readAddress_announcement (id : PluginId) {ip : Net.V4} {port : Nat} (proper : ip.Proper)
    (h : port < 65536) (rest : List UInt8) :
    readAddress id ((Text.encode (Server.announcement (.tcp (.v4 ip port)))).toList ++ rest) =
      .ok (.tcp (.v4 ip port), rest) := by
  have address : (Net.Address.v4 ip port).Proper := ⟨proper, h⟩
  exact readAddress_line (nextLine_announcement (Net.bare_text address) rest) (text?_encode _)
    (Place.ofLine?_text address)

/-- Lines that tell no address, then the line that an instance prints which listens at an address of
version 4, then anything else: the address is found, and exactly what follows its line stays unread, if and
only if the lines before it are text; else the reading fails where it comes upon the first that is none.
In a stream of which no line tells an address none is found; the fault is that the stream is over if all
its lines are text, and otherwise it is again that it is no text. -/
theorem found_unless_garbled (id : PluginId) :
    (∀ (noise : List (List UInt8)) (ip : Net.V4) (port : Nat) (rest : List UInt8),
      (∀ l ∈ noise, 0x0A ∉ l) → (∀ l ∈ noise, place? (content l) = none) → ip.Proper → port < 65536 →
      readAddress id (ended noise ++
          ((Text.encode (Server.announcement (.tcp (.v4 ip port)))).toList ++ rest)) =
        if (noise.map content).all isText then .ok (.tcp (.v4 ip port), rest)
        else .error (garbled id)) ∧
      ∀ s, (∀ l ∈ linesOf s, place? l = none) →
        readAddress id s = .error (if (linesOf s).all isText then closed id else garbled id) := by
  refine ⟨?_, readAddress_of_mute id⟩
  intro noise ip port rest whole mute proper h
  rw [readAddress_ended whole mute, readAddress_announcement id proper h]

/-- A plugin that says a few lines before it announces its address, and more after that, is found, and so
is the end of one that says a line and a half. -/
theorem found_after_chatter :
    readAddress ⟨"p"⟩ (ended [[0x68, 0x69, 0x0D], [], [0x34, 0x3A, 0x32]] ++
        ((Text.encode (Server.announcement (.tcp (.v4 ⟨[127, 0, 0, 1]⟩ 4100)))).toList ++ [0x6F, 0x0A])) =
      .ok (.tcp (.v4 ⟨[127, 0, 0, 1]⟩ 4100), [0x6F, 0x0A]) ∧
    readAddress ⟨"p"⟩ [0x68, 0x69, 0x0A, 0x68] = .error (closed ⟨"p"⟩) := by
  have spec := found_unless_garbled ⟨"p"⟩
  constructor
  · rw [spec.1 [[0x68, 0x69, 0x0D], [], [0x34, 0x3A, 0x32]] ⟨[127, 0, 0, 1]⟩ 4100 [0x6F, 0x0A] (by decide)
      (by decide) ⟨rfl, by decide⟩ (by decide)]
    rfl
  -- the last line has no end, but it is a line
  · have lines : linesOf [0x68, 0x69, 0x0A, 0x68] = [[0x68, 0x69], [0x68]] := by
      rw [linesOf_of_next rfl, linesOf_of_next rfl, linesOf_of_none rfl]
      rfl
    have found := spec.2 [0x68, 0x69, 0x0A, 0x68] (by rw [lines]; decide)
    rw [found, lines]
    rfl

/-- One octet that is no text and no address hides the address after it. -/
theorem garbage_hides_address : place? [0xFF] = none ∧
    readAddress ⟨"p"⟩ (ended [[0xFF]] ++
        (Text.encode (Server.announcement (.tcp (.v4 ⟨[127, 0, 0, 1]⟩ 4100)))).toList) =
      .error (garbled ⟨"p"⟩) := by
  refine ⟨rfl, ?_⟩
  rw [readAddress_ended (by decide) (by decide)]
  rfl

end PluginKit.Handshake
