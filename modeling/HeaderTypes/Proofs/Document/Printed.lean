import HeaderTypes.Document.Json.Printer
import HeaderTypes.Document.Model
import Mathlib.Data.String.Basic

namespace HeaderTypes

namespace Text

theorem isHalf_toNat (c : Char) : isHalf c.toNat = false := by
  have valid : c.toNat.isValidChar := c.valid
  simp only [isHalf, Bool.and_eq_false_iff, decide_eq_false_iff_not]
  simp only [Nat.isValidChar] at valid
  omega

theorem ofPoints_pointsOf (s : List Char) : ofPoints (pointsOf s) = s := by
  have each (c : Char) : charOfPoint c.toNat = c := by
    rw [charOfPoint, isHalf_toNat, if_neg Bool.false_ne_true, Char.ofNat_toNat]
  rw [ofPoints, pointsOf, List.map_map]
  exact (List.map_congr_left fun c _ => each c).trans (List.map_id _)

namespace Loose

theorem ofPoints_pointsOf (s : List Char) :
    Loose.ofPoints (pointsOf s) = (String.ofList s : Loose) := by
  have none : (pointsOf s).any isHalf = false := by simp [pointsOf, isHalf_toNat]
  rw [Loose.ofPoints, none, Text.ofPoints_pointsOf]
  rfl

theorem points_coe (text : String) : (text : Loose).points = pointsOf text.toList := by
  unfold points
  cases text.toList <;> rfl

theorem append_coe (a b : String) : (a : Loose) ++ (b : Loose) = ((a ++ b : String) : Loose) := by
  have points : (a : Loose).points ++ (b : Loose).points = pointsOf (a ++ b).toList := by
    simp only [points_coe, String.toList_append, pointsOf, List.map_append]
  change Loose.ofPoints _ = _
  rw [points, ofPoints_pointsOf, String.ofList_toList]

end Loose

end Text

namespace Document.Json
open Text (Loose pointsOf)

/-- A text of characters alone between quotes. -/
def quoted (text : String) : String :=
  String.ofList ('"' :: text.toList.flatMap (stringChar false) ++ ['"'])

theorem renderText_coe (text : String) : renderText false text = (quoted text : Loose) := by
  have each (c : Char) : stringPoint false c.toNat = pointsOf (stringChar false c) := by
    rw [stringPoint, Text.isHalf_toNat, if_neg Bool.false_ne_true, Char.ofNat_toNat]
  have inside : (pointsOf text.toList).flatMap (stringPoint false) =
      pointsOf (text.toList.flatMap (stringChar false)) := by
    simp only [pointsOf, List.flatMap_map, List.map_flatMap, each]
  have all : '"'.toNat :: pointsOf (text.toList.flatMap (stringChar false)) ++ ['"'.toNat] =
      pointsOf ('"' :: text.toList.flatMap (stringChar false) ++ ['"']) := by
    simp only [pointsOf, List.cons_append, List.map_cons, List.map_append, List.map_nil]
  rw [renderText, Loose.points_coe, inside, all, Loose.ofPoints_pointsOf]
  rfl

/-- The characters of pieces one behind the other. -/
def chars (pieces : List Loose) : List Char := pieces.flatMap (·.text.toList)

/-- Only what is of characters alone is written together with what stands in front. -/
def Written.Whole (part : Written) : Prop :=
  part.clinging → ∀ piece ∈ part.pieces, ∃ text : String, piece = text

theorem Written.Whole.chars_behind {part : Written} (whole : part.Whole) (front : String) :
    chars (part.behind front) = front.toList ++ chars part.pieces := by
  unfold behind
  split
  · rename_i first rest clings same
    obtain ⟨text, rfl⟩ := whole clings first (same ▸ List.mem_cons_self)
    rw [same, Loose.append_coe, chars, List.flatMap_cons, String.toList_append, List.append_assoc]
    rfl
  · rfl

/-- The parts of a container behind its first one, and its closing bracket. -/
def sequel (closing : String) (level : Nat) (parts : List (List Char)) : List Char :=
  parts.flatMap (fun part => ',' :: ((newline (level + 1)).toList ++ part)) ++
    ((newline level).toList ++ closing.toList)

theorem chars_bracketed {first : Written} {rest : List Written} (whole : first.Whole)
    (others : ∀ part ∈ rest, part.Whole) (opening closing : String) (level : Nat) :
    chars (bracketed opening closing level (first :: rest)) =
      opening.toList ++ ((newline (level + 1)).toList ++ (chars first.pieces ++
        sequel closing level (rest.map (chars ·.pieces)))) := by
  have each : chars (rest.flatMap (·.behind ("," ++ newline (level + 1)))) =
      (rest.map (chars ·.pieces)).flatMap fun part =>
        ',' :: ((newline (level + 1)).toList ++ part) := by
    rw [chars, List.flatMap_assoc, List.flatMap_map]
    refine List.flatMap_congr fun part member => ((others part member).chars_behind _).trans ?_
    rw [String.toList_append, List.append_assoc]
    rfl
  rw [bracketed, chars, List.flatMap_append, List.flatMap_append]
  change chars (first.behind _) ++ chars (rest.flatMap _) ++ chars [_] = _
  rw [whole.chars_behind, each]
  simp [sequel, chars]

/-- An item of a list as a part of it. -/
def itemPart (layout : Layout) (level : Nat) (item : Value) : Written :=
  match item with
  | .scalar value => ⟨true, [renderScalar layout.ascii value]⟩
  | item => ⟨false, piecesAt layout level item⟩

theorem itemPart_pieces (layout : Layout) (level : Nat) (item : Value) :
    (itemPart layout level item).pieces = piecesAt layout level item := by
  cases item with
  | scalar value =>
    rw [piecesAt]
    rfl
  | list items => rfl
  | map entries => rfl

theorem itemsWritten_eq_map (layout : Layout) (level : Nat) (items : List Value) :
    itemsWritten layout level items = items.map (itemPart layout level) := by
  induction items with
  | nil => rw [itemsWritten, List.map_nil]
  | cons item items ih =>
    cases item with
    | scalar value =>
      rw [itemsWritten, ih]
      rfl
    | list inner =>
      rw [itemsWritten, ih]
      · rfl
      · nofun
    | map entries =>
      rw [itemsWritten, ih]
      · rfl
      · nofun

theorem entriesWritten_eq_map (layout : Layout) (level : Nat) (entries : List (Scalar × Value)) :
    entriesWritten layout level entries =
      entries.map fun entry => (keyText entry.1, piecesAt layout level entry.2) := by
  induction entries with
  | nil => rw [entriesWritten, List.map_nil]
  | cons entry entries ih => rw [entriesWritten, ih, List.map_cons]

/-- A value without numbers, whose texts and keys are of characters alone and
whose containers lie inside each other up to some depth. -/
inductive Textual : Nat → Value → Prop
  | null {room} : Textual room (.scalar .null)
  | bool {room} (value : Bool) : Textual room (.scalar (.bool value))
  | text {room} (text : String) : Textual room (.scalar (.text text))
  | list {room items} : (∀ item ∈ items, Textual room item) → Textual (room + 1) (.list items)
  | map {room} {entries : List (String × Value)} : (entries.map (·.1)).Nodup →
      (∀ e ∈ entries, Textual room e.2) → Textual (room + 1) (mapOf entries)

/-- The characters of a value that begins on a line of a given level. -/
def printed (level : Nat) (value : Value) : List Char := chars (piecesAt modelLayout level value)

/-- The characters of an entry on a line of a given level. -/
def printedEntry (level : Nat) (e : String × Value) : List Char :=
  (quoted e.1).toList ++ (": ".toList ++ printed level e.2)

theorem printed_text (text : String) (level : Nat) :
    printed level (.text text) = (quoted text).toList := by
  change chars [renderText false (text : Loose)] = _
  rw [renderText_coe, chars, List.flatMap_singleton]

theorem Textual.whole {room : Nat} {item : Value} (textual : Textual room item) (level : Nat) :
    (itemPart modelLayout level item).Whole := by
  intro clings piece member
  cases textual with
  | null => exact ⟨"null", List.mem_singleton.mp member⟩
  | bool value =>
    cases value
    · exact ⟨"false", List.mem_singleton.mp member⟩
    · exact ⟨"true", List.mem_singleton.mp member⟩
  | text text => exact ⟨quoted text, (List.mem_singleton.mp member).trans (renderText_coe text)⟩
  | list => cases clings
  | map => cases clings

theorem printed_list {room : Nat} {first : Value} {items : List Value}
    (textual : ∀ item ∈ first :: items, Textual room item) (level : Nat) :
    printed level (.list (first :: items)) =
      '[' :: ((newline (level + 1)).toList ++ (printed (level + 1) first ++
        sequel "]" level (items.map (printed (level + 1))))) := by
  obtain ⟨here, others⟩ := List.forall_mem_cons.mp textual
  rw [printed, piecesAt, itemsWritten_eq_map, List.map_cons, chars_bracketed (here.whole _)]
  · simp only [itemPart_pieces, List.map_map, Function.comp_def]
    rfl
  · intro part member
    obtain ⟨item, listed, rfl⟩ := List.mem_map.mp member
    exact (others item listed).whole _

/-- An entry of a map as a part of it. -/
def entryPart (level : Nat) (e : String × Value) : Written :=
  entryWritten modelLayout.ascii (e.1 : Loose) (piecesAt modelLayout level e.2)

theorem chars_entryPart (level : Nat) (e : String × Value) :
    chars (entryPart level e).pieces = printedEntry level e := by
  change chars (renderText false (e.1 : Loose) :: (": " : Loose) :: _) = _
  simp only [renderText_coe, chars, List.flatMap_cons, printedEntry, printed]

theorem printed_map (first : String × Value) (entries : List (String × Value)) (level : Nat) :
    printed level (mapOf (first :: entries)) =
      '\x7b' :: ((newline (level + 1)).toList ++ (printedEntry (level + 1) first ++
        sequel "\x7d" level (entries.map (printedEntry (level + 1))))) := by
  have whole (e : String × Value) : (entryPart (level + 1) e).Whole := fun clings => nomatch clings
  have kept : ¬ modelLayout.sorted = true := Bool.false_ne_true
  have parts : (entriesWritten modelLayout (level + 1)
      ((first :: entries).map fun e => (.text e.1, e.2))).map
        (fun part => entryWritten modelLayout.ascii part.1 part.2) =
      (first :: entries).map (entryPart (level + 1)) := by
    rw [entriesWritten_eq_map, List.map_map, List.map_map]
    rfl
  rw [printed, mapOf, piecesAt]
  simp only [if_neg kept]
  rw [parts, List.map_cons, chars_bracketed (whole _)]
  · simp only [List.map_map, Function.comp_def, chars_entryPart]
    rfl
  · intro part member
    obtain ⟨e, _, rfl⟩ := List.mem_map.mp member
    exact whole e

/-- The characters that a printed value may begin with. -/
def openers : List Char := ['n', 't', 'f', '"', '[', '\x7b']

theorem Textual.starts {room : Nat} {value : Value} (textual : Textual room value) (level : Nat) :
    ∃ c s, printed level value = c :: s ∧ c ∈ openers := by
  cases textual with
  | null => exact ⟨'n', _, rfl, by decide⟩
  | bool value =>
    cases value
    · exact ⟨'f', _, rfl, by decide⟩
    · exact ⟨'t', _, rfl, by decide⟩
  | text text =>
    rw [printed_text, quoted, String.toList_ofList]
    exact ⟨'"', _, rfl, by decide⟩
  | @list room items each =>
    cases items with
    | nil => exact ⟨'[', _, rfl, by decide⟩
    | cons first items =>
      rw [printed_list each]
      exact ⟨'[', _, rfl, by decide⟩
  | @map room entries distinct each =>
    cases entries with
    | nil => exact ⟨'\x7b', _, rfl, by decide⟩
    | cons first entries =>
      rw [printed_map]
      exact ⟨'\x7b', _, rfl, by decide⟩

end Document.Json

end HeaderTypes
