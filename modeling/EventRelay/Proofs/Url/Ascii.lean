import EventRelay.Proofs.Except
import EventRelay.Url.Parser

set_option autoImplicit false

/-!
Names in ASCII as hosts. The tables of marks and directions hold no ASCII characters, so a name of
plain labels is read as it stands.
-/
namespace EventRelay

namespace Text.Table

def OutsideAscii (lines : List String) : Prop :=
  ∀ line ∈ lines,
    ((piecesOf ' ' line.toList).filterMap fun word => span? (row word)).all (0x80 ≤ ·.first) = true

theorem outsideAscii_nil : OutsideAscii [] := fun _ member => nomatch member

theorem outsideAscii_cons {cs : List Char} {rest : List String}
    (first : ((piecesOf ' ' cs).filterMap fun word => span? (row word)).all (0x80 ≤ ·.first) = true)
    (others : OutsideAscii rest) : OutsideAscii (String.ofList cs :: rest) := by
  refine List.forall_mem_cons.mpr ⟨?_, others⟩
  rwa [String.toList_ofList]

theorem OutsideAscii.within_eq_false {lines : List String} (outside : OutsideAscii lines) {c : Char}
    (ascii : c.toNat < 0x80) : within (spans lines) c = false := by
  rw [Bool.eq_false_iff]
  intro held
  obtain ⟨span, listed, low, -⟩ := (within_iff ..).mp held
  simp only [spans, rows, List.mem_filterMap, List.mem_flatMap, List.mem_map] at listed
  obtain ⟨numbers, ⟨line, member, word, written, rfl⟩, found⟩ := listed
  have far := List.all_eq_true.mp (outside line member) span
    (List.mem_filterMap.mpr ⟨word, written, found⟩)
  simp only [decide_eq_true_eq] at far
  omega

end Text.Table

namespace Url.Domain

open Text.Table (OutsideAscii outsideAscii_cons outsideAscii_nil)

theorem tables_outsideAscii : OutsideAscii Table.marks ∧ OutsideAscii DirectionTable.right ∧
    OutsideAscii DirectionTable.arabicLetters ∧ OutsideAscii DirectionTable.arabicDigits := by
  unfold Table.marks DirectionTable.right DirectionTable.arabicLetters DirectionTable.arabicDigits
  refine ⟨?_, ?_, ?_, ?_⟩
  all_goals
    repeat refine outsideAscii_cons (by decide +kernel) ?_
    exact outsideAscii_nil

section Ascii
variable {c : Char} {label : List Char}

theorem isMark_eq_false (ascii : isAscii c = true) : isMark c = false :=
  tables_outsideAscii.1.within_eq_false (of_decide_eq_true ascii)

theorem isRightward_eq_false (ascii : isAscii c = true) :
    (Direction.of c).isRightward = false := by
  have small : c.toNat < 0x80 := of_decide_eq_true ascii
  unfold Direction.of
  cases found : Direction.table.find? fun entry => Text.Table.within entry.2 c with
  | none => rfl
  | some entry =>
      obtain ⟨direction, spans⟩ := entry
      have held := List.find?_some found
      have listed := List.mem_of_find?_eq_some found
      obtain ⟨-, right, letters, digits⟩ := tables_outsideAscii
      replace right := right.within_eq_false small
      replace letters := letters.within_eq_false small
      replace digits := digits.within_eq_false small
      simp only [Direction.table, List.mem_cons, Prod.mk.injEq, List.not_mem_nil,
        or_false] at listed
      -- Three of the directions run from the right, and none of their tables holds `c`.
      rcases listed with ⟨rfl, rfl⟩ | ⟨rfl, rfl⟩ | ⟨rfl, rfl⟩ | ⟨rfl, -⟩ | ⟨rfl, -⟩ | ⟨rfl, -⟩ |
        ⟨rfl, -⟩ | ⟨rfl, -⟩ | ⟨rfl, -⟩ | ⟨rfl, -⟩
      · simp [right] at held
      · simp [letters] at held
      · simp [digits] at held
      all_goals rfl

theorem joinsWell_of_ascii (ascii : label.all isAscii = true) : joinsWell label = true := by
  have stands : ∀ (rest before : List Char), rest.all isAscii = true →
      joinsWellAfter before rest = true := by
    intro rest
    induction rest with
    | nil => exact fun before _ => rfl
    | cons c rest ih =>
        intro before ascii
        obtain ⟨first, others⟩ := Bool.and_eq_true_iff.mp ascii
        have small : c.toNat < 0x80 := of_decide_eq_true first
        have noJoiner : c ≠ joiner := by
          rintro rfl
          exact absurd small (by decide)
        have noNonJoiner : c ≠ nonJoiner := by
          rintro rfl
          exact absurd small (by decide)
        simp [joinsWellAfter, mayStand, noJoiner, noNonJoiner, ih _ others]
  exact stands label [] ascii

end Ascii

/-- Whether a label is written in ASCII as it is, with no sign of a code. -/
def isPlainLabel (label : List Char) : Bool :=
  label.all isAscii && (Text.dropStart? sign label).isNone && !label.any isForbidden

section Labels
variable {label name found : List Char}

theorem isLabel_of_isPlainLabel (plain : isPlainLabel label = true) : isLabel label = true := by
  simp only [isPlainLabel, Bool.and_eq_true] at plain
  obtain ⟨⟨ascii, unsigned⟩, allowed⟩ := plain
  have unmarked : label.head?.any isMark = false := by
    cases label with
    | nil => rfl
    | cons c rest => exact isMark_eq_false (Bool.and_eq_true_iff.mp ascii).1
  simp only [isLabel, unsigned, allowed, unmarked, joinsWell_of_ascii ascii, Bool.not_false,
    Bool.and_self]

theorem readable?_of_isPlainLabel (plain : isPlainLabel label = true) :
    readable? label = some label := by
  simp only [isPlainLabel, Bool.and_eq_true, Option.isNone_iff_eq_none] at plain
  rw [readable?, plain.1.2]

theorem keepsDirections_of_ascii {labels : List (List Char)}
    (ascii : ∀ label ∈ labels, label.all isAscii = true) : keepsDirections labels = true := by
  have none : (labels.map (·.map Direction.of)).any (fun ds => ds.any (·.isRightward)) = false := by
    rw [List.any_map, List.any_eq_false]
    intro label member
    rw [Function.comp_apply, List.any_map, Bool.not_eq_true, List.any_eq_false]
    intro c written
    rw [Function.comp_apply,
      isRightward_eq_false (List.all_eq_true.mp (ascii label member) c written)]
    exact Bool.false_ne_true
  simp [keepsDirections, none]

theorem mapM_readable?_of_plain {labels : List (List Char)}
    (plain : ∀ label ∈ labels, isPlainLabel label = true) :
    labels.mapM readable? = some labels := by
  induction labels with
  | nil => rfl
  | cons label rest ih =>
      obtain ⟨first, others⟩ := List.forall_mem_cons.mp plain
      rw [List.mapM_cons, readable?_of_isPlainLabel first, ih others]
      rfl

theorem labels?_of_plain (mapped : mapped? name = some found)
    (plain : (Text.piecesOf '.' found).all isPlainLabel = true) :
    labels? name = some (Text.piecesOf '.' found) := by
  have each := List.all_eq_true.mp plain
  have read := mapM_readable?_of_plain each
  have labelled : ∀ label ∈ Text.piecesOf '.' found, isLabel label = true :=
    fun label member => isLabel_of_isPlainLabel (each label member)
  have directed : keepsDirections (Text.piecesOf '.' found) = true := by
    refine keepsDirections_of_ascii fun label member => ?_
    have parts := each label member
    simp only [isPlainLabel, Bool.and_eq_true] at parts
    exact parts.1.1
  simpa [labels?, mapped, read, directed] using labelled

theorem toAscii?_of_plain {bytes : Bytes} {text : String} (decoded : Text.decode? bytes = some text)
    (mapped : mapped? text.toList = some found)
    (plain : (Text.piecesOf '.' found).all isPlainLabel = true) :
    toAscii? bytes = some (List.intercalate ['.'] (Text.piecesOf '.' found)) := by
  have unchanged : (Text.piecesOf '.' found).map labelAscii = Text.piecesOf '.' found := by
    refine (List.map_congr_left fun label member => ?_).trans (List.map_id _)
    have parts := List.all_eq_true.mp plain label member
    simp only [isPlainLabel, Bool.and_eq_true] at parts
    rw [labelAscii, if_pos parts.1.1, id]
  simp only [toAscii?, decoded, bind, Option.bind, labels?_of_plain mapped plain, unchanged]
  rfl

end Labels
end Url.Domain

namespace Url

/-- A name of plain labels is a domain, unless its last label is a number. -/
theorem specialHost_of_plain (text : List Char) {found : List Char} {name : String}
    (unbracketed : text.head? ≠ some '[')
    (decoded : Text.decode? (Percent.decode (Text.encode (String.ofList text))) = some name)
    (mapped : Domain.mapped? name.toList = some found)
    (plain : (Text.piecesOf '.' found).all Domain.isPlainLabel = true)
    (filled : (List.intercalate ['.'] (Text.piecesOf '.' found)).isEmpty = false)
    (unnumbered : endsInNumber (List.intercalate ['.'] (Text.piecesOf '.' found)) = false) :
    specialHost text =
      .ok (.domain (String.ofList (List.intercalate ['.'] (Text.piecesOf '.' found)))) := by
  have read := Domain.toAscii?_of_plain decoded mapped plain
  unfold specialHost
  split
  · exact absurd rfl unbracketed
  · simp only [read, filled, unnumbered, Bool.false_eq_true, ↓reduceIte]

section Authorities
variable {scheme : String} {cs name : List Char} {host : Host}

/-- A URL of a special scheme can be read if a host alone stands before its path. -/
theorem exists_fromAuthority (special : isSpecial scheme = true)
    (authority : cs.takeWhile (fun c => !(isSlash true c || isQueryOrFragment c)) = name)
    (anonymous : cutLastAt? name = none) (portless : hostLength false name = name.length)
    (named : name ≠ []) (found : specialHost name = .ok host) :
    ∃ url, fromAuthority scheme cs = .ok url := by
  unfold fromAuthority
  have filled : name.isEmpty = false := by simpa using named
  simp only [special, authority, anonymous, portless, Option.map_none, Option.getD_none,
    List.take_length, List.drop_length, filled, Option.isSome_none, Bool.false_eq_true, false_and,
    ↓reduceIte, found]
  exact ⟨_, rfl⟩

theorem isUrl_of_host {text : String} (cut : scheme? (counted text) = some (scheme, cs))
    (special : isSpecial scheme = true) (remote : scheme ≠ "file")
    (authority : (cs.dropWhile (isSlash true)).takeWhile
      (fun c => !(isSlash true c || isQueryOrFragment c)) = name)
    (anonymous : cutLastAt? name = none) (portless : hostLength false name = name.length)
    (named : name ≠ []) (found : specialHost name = .ok host) : isUrl text = true := by
  obtain ⟨url, read⟩ := exists_fromAuthority special authority anonymous portless named found
  have parsed : parse text = .ok url := by
    simp only [parse, cut, remote, ↓reduceIte, special, read]
  rw [isUrl, parsed]
  rfl

end Authorities
end Url
end EventRelay
