import BackOfEnvelope.Placeholder
import Mathlib.Data.List.Basic

/-!
# Substitution of placeholders

A text that is read from the left divides in one way into placeholders and single
characters.  Substitution gives each placeholder the display text of its name, if the name
is known, and copies all else.  Two texts in a row are substituted apart if every opening
brace of the first is closed in it; a brace that is left open begins a placeholder with the
next closing brace behind it, and all between the two is its name.
-/

namespace BackOfEnvelope

namespace TextSegment

variable {c : Char} {name rest text first second : List Char}
variable {pieces others : List TextSegment}

/-- What may stand between the braces of a placeholder. -/
def IsName (name : List Char) : Prop :=
  name ≠ [] ∧ '}' ∉ name

def BeginsPlaceholder (text : List Char) : Prop :=
  ∃ name rest, IsName name ∧ text = '{' :: (name ++ '}' :: rest)

/-- The pieces of a text that is read from the left: a placeholder wherever one begins, and
a single character elsewhere. -/
inductive DividesInto : List Char → List TextSegment → Prop where
  | nil : DividesInto [] []
  | placeholder {name rest : List Char} {others : List TextSegment} (isName : IsName name)
      (remaining : DividesInto rest others) :
      DividesInto ('{' :: (name ++ '}' :: rest)) (.placeholder name :: others)
  | character {c : Char} {rest : List Char} {others : List TextSegment}
      (alone : ¬ BeginsPlaceholder (c :: rest)) (remaining : DividesInto rest others) :
      DividesInto (c :: rest) (.character c :: others)

theorem ne_of_notMem (noBrace : '}' ∉ name) : ∀ c ∈ name, (c != '}') = true := by
  intro c member
  exact bne_iff_ne.mpr (ne_of_mem_of_not_mem member noBrace)

theorem leadingName_append (noBrace : '}' ∉ name) (rest : List Char) :
    leadingName (name ++ '}' :: rest) = name := by
  rw [leadingName, List.takeWhile_append_of_pos (ne_of_notMem noBrace),
    List.takeWhile_cons_of_neg (by simp), List.append_nil]

theorem behindName_append (noBrace : '}' ∉ name) (rest : List Char) :
    behindName (name ++ '}' :: rest) = rest := by
  rw [behindName, List.dropWhile_append_of_pos (ne_of_notMem noBrace),
    List.dropWhile_cons_of_neg (by simp)]
  rfl

theorem opensPlaceholder_iff :
    opensPlaceholder text ↔ ∃ name rest, IsName name ∧ text = name ++ '}' :: rest := by
  simp only [opensPlaceholder, Bool.and_eq_true, List.contains_iff_mem, bne_iff_ne]
  constructor
  · rintro ⟨closed, named⟩
    obtain ⟨name, rest, rfl, noBrace⟩ := List.eq_append_cons_of_mem closed
    refine ⟨name, rest, ⟨?_, noBrace⟩, rfl⟩
    rintro rfl
    exact named rfl
  · rintro ⟨name, rest, ⟨nonempty, noBrace⟩, rfl⟩
    obtain ⟨first, others, rfl⟩ := List.exists_cons_of_ne_nil nonempty
    have different : first ≠ '}' := ne_of_mem_of_not_mem List.mem_cons_self noBrace
    exact ⟨by simp, by simpa using different⟩

theorem beginsPlaceholder_cons_iff :
    BeginsPlaceholder (c :: rest) ↔ c = '{' ∧ opensPlaceholder rest := by
  rw [opensPlaceholder_iff]
  constructor
  · rintro ⟨name, behind, isName, same⟩
    cases same
    exact ⟨rfl, name, behind, isName, rfl⟩
  · rintro ⟨rfl, name, behind, isName, rfl⟩
    exact ⟨name, behind, isName, rfl⟩

theorem ofCharacters_nil : ofCharacters [] = [] := by
  rw [ofCharacters]

theorem ofCharacters_placeholder (isName : IsName name) (rest : List Char) :
    ofCharacters ('{' :: (name ++ '}' :: rest)) = .placeholder name :: ofCharacters rest := by
  have opens : opensPlaceholder (name ++ '}' :: rest) :=
    opensPlaceholder_iff.mpr ⟨name, rest, isName, rfl⟩
  rw [ofCharacters, if_pos (by simpa using opens), leadingName_append isName.2,
    behindName_append isName.2]

theorem ofCharacters_character (alone : ¬ BeginsPlaceholder (c :: rest)) :
    ofCharacters (c :: rest) = .character c :: ofCharacters rest := by
  rw [beginsPlaceholder_cons_iff] at alone
  rw [ofCharacters, if_neg (by simpa using alone)]

theorem dividesInto_ofCharacters (text : List Char) : DividesInto text (ofCharacters text) := by
  induction size : text.length using Nat.strongRecOn generalizing text with
  | ind size ih =>
      cases text with
      | nil =>
          rw [ofCharacters_nil]
          exact .nil
      | cons c rest =>
          by_cases begins : BeginsPlaceholder (c :: rest)
          · obtain ⟨name, behind, isName, same⟩ := begins
            rw [same] at size ⊢
            simp only [List.length_cons, List.length_append] at size
            rw [ofCharacters_placeholder isName]
            exact .placeholder isName (ih behind.length (by omega) behind rfl)
          · rw [ofCharacters_character begins]
            exact .character begins (ih rest.length (by simp [← size]) rest rfl)

/-- A text divides in no other way. -/
theorem DividesInto.eq_ofCharacters (divided : DividesInto text pieces) :
    pieces = ofCharacters text := by
  induction divided with
  | nil => rw [ofCharacters_nil]
  | placeholder isName _ ih => rw [ofCharacters_placeholder isName, ← ih]
  | character alone _ ih => rw [ofCharacters_character alone, ← ih]

theorem DividesInto.written (divided : DividesInto text pieces) :
    pieces.flatMap TextSegment.written = text := by
  induction divided with
  | nil => rfl
  | placeholder _ _ ih => simp [TextSegment.written, ih]
  | character _ _ ih => simp [TextSegment.written, ih]

/-- Every opening brace has a closing one behind it. -/
def IsClosed (text : List Char) : Prop :=
  ∀ rest, '{' :: rest <:+ text → '}' ∈ rest

theorem isClosed_nil : IsClosed [] := by
  intro rest suffix
  simp at suffix

theorem isClosed_cons_iff :
    IsClosed (c :: text) ↔ (c = '{' → '}' ∈ text) ∧ IsClosed text := by
  simp only [IsClosed, List.suffix_cons_iff]
  constructor
  · intro closed
    refine ⟨?_, fun rest suffix => closed rest (.inr suffix)⟩
    rintro rfl
    exact closed text (.inl rfl)
  · rintro ⟨head, tail⟩ rest (same | suffix)
    · cases same
      exact head rfl
    · exact tail rest suffix

theorem IsClosed.of_append (closed : IsClosed (first ++ second)) : IsClosed second :=
  fun rest suffix => closed rest (suffix.trans (List.suffix_append first second))

/-- Whether a brace opens a placeholder is settled by the next closing brace. -/
theorem opensPlaceholder_append (closed : '}' ∈ first) (second : List Char) :
    opensPlaceholder (first ++ second) = opensPlaceholder first := by
  obtain ⟨head, tail, rfl⟩ := List.exists_cons_of_ne_nil (List.ne_nil_of_mem closed)
  have whole : '}' ∈ head :: tail ++ second := List.mem_append_left _ closed
  rw [opensPlaceholder, opensPlaceholder, List.contains_iff_mem.mpr closed,
    List.contains_iff_mem.mpr whole]
  rfl

/-- Behind a text with closed braces the pieces are those of what stands there. -/
theorem ofCharacters_append (closed : IsClosed first) (second : List Char) :
    ofCharacters (first ++ second) = ofCharacters first ++ ofCharacters second := by
  have divided := dividesInto_ofCharacters first
  generalize ofCharacters first = pieces at divided
  induction divided with
  | nil => rfl
  | @placeholder name rest others isName _ ih =>
      have closedRest : IsClosed rest := by
        have whole : '{' :: (name ++ '}' :: rest) = ('{' :: (name ++ ['}'])) ++ rest := by simp
        exact IsClosed.of_append (whole ▸ closed)
      rw [List.cons_append, List.append_assoc, List.cons_append,
        ofCharacters_placeholder isName, ih closedRest, List.cons_append]
  | @character c rest others alone _ ih =>
      obtain ⟨head, closedRest⟩ := isClosed_cons_iff.mp closed
      have stillAlone : ¬ BeginsPlaceholder (c :: (rest ++ second)) := by
        rw [beginsPlaceholder_cons_iff] at alone ⊢
        rintro ⟨rfl, opens⟩
        rw [opensPlaceholder_append (head rfl)] at opens
        exact alone ⟨rfl, opens⟩
      rw [List.cons_append, ofCharacters_character stillAlone, ih closedRest, List.cons_append]

/-- Where no brace closes, no placeholder begins. -/
theorem ofCharacters_of_notMem (noBrace : '}' ∉ text) :
    ofCharacters text = text.map .character := by
  induction text with
  | nil => exact ofCharacters_nil
  | cons c rest ih =>
      have noBraceBehind : '}' ∉ rest := fun member => noBrace (List.mem_cons_of_mem c member)
      have alone : ¬ BeginsPlaceholder (c :: rest) := by
        rw [beginsPlaceholder_cons_iff, opensPlaceholder_iff]
        rintro ⟨-, name, behind, -, rfl⟩
        exact noBraceBehind (by simp)
      rw [ofCharacters_character alone, ih noBraceBehind, List.map_cons]

/-- The first opening brace without a closing one behind it divides a text. -/
theorem exists_open_brace (text : List Char) (notClosed : ¬ IsClosed text) :
    ∃ before between, text = before ++ '{' :: between ∧ IsClosed before ∧ '}' ∉ between := by
  induction text with
  | nil => exact absurd isClosed_nil notClosed
  | cons c rest ih =>
      by_cases opened : c = '{' ∧ '}' ∉ rest
      · obtain ⟨rfl, noBrace⟩ := opened
        exact ⟨[], rest, rfl, isClosed_nil, noBrace⟩
      · have closedHead : c = '{' → '}' ∈ rest := by simpa using opened
        have notClosedRest : ¬ IsClosed rest := fun closedRest =>
          notClosed (isClosed_cons_iff.mpr ⟨closedHead, closedRest⟩)
        obtain ⟨before, between, rfl, closed, noBrace⟩ := ih notClosedRest
        refine ⟨c :: before, between, rfl, isClosed_cons_iff.mpr ⟨?_, closed⟩, noBrace⟩
        intro isBrace
        simpa [noBrace] using closedHead isBrace

end TextSegment

namespace Placeholder

open TextSegment

variable {display : String → Option String} {name shown text first before between : String}

theorem substitute_append (closed : IsClosed first.toList) (second : String) :
    substitute display (first ++ second) =
      substitute display first ++ substitute display second := by
  simp only [substitute, String.toList_append, ofCharacters_append closed, List.flatMap_append,
    String.ofList_append]

theorem substitute_of_unknown {pieces : List TextSegment}
    (divided : DividesInto text.toList pieces)
    (unknown : ∀ name, .placeholder name ∈ pieces → display (String.ofList name) = none) :
    substitute display text = text := by
  have copied : pieces.flatMap (substituted display) = pieces.flatMap written := by
    refine List.flatMap_congr ?_
    intro piece member
    cases piece with
    | character c => rfl
    | placeholder name => simp only [substituted, unknown name member]
  rw [substitute, ← divided.eq_ofCharacters, copied, divided.written, String.ofList_toList]

theorem substitute_of_notMem (noBrace : '}' ∉ text.toList) : substitute display text = text := by
  refine substitute_of_unknown (dividesInto_ofCharacters text.toList) ?_
  intro name member
  simp [ofCharacters_of_notMem noBrace] at member

/-- A name between braces. -/
def braced (name : String) : String :=
  "\x7b" ++ name ++ "\x7d"

theorem toList_braced (name : String) : (braced name).toList = '{' :: (name.toList ++ ['}']) := by
  simp [braced]

theorem substitute_braced (nonempty : name ≠ "") (noBrace : '}' ∉ name.toList)
    (second : String) :
    substitute display (braced name ++ second) =
      (display name).getD (braced name) ++ substitute display second := by
  have isName : IsName name.toList := ⟨by simpa using nonempty, noBrace⟩
  have written : (braced name ++ second).toList = '{' :: (name.toList ++ '}' :: second.toList) := by
    simp [toList_braced]
  apply String.toList_injective
  simp only [substitute, String.toList_ofList, written, ofCharacters_placeholder isName,
    List.flatMap_cons, String.toList_append, substituted, String.ofList_toList]
  cases display name with
  | none => rw [Option.getD_none, toList_braced, TextSegment.written]
  | some shown => rfl

/-- A text divides in one way into placeholders and other characters, and its substitution is
that of its pieces: display texts for the placeholders of known names, and all else as it is
written.  Behind closed braces it begins anew, and without known names it changes nothing. -/
theorem substitute_in_one_pass (display : String → Option String) :
    (∀ text : String, ∃ pieces, DividesInto text.toList pieces ∧
      (∀ others, DividesInto text.toList others → others = pieces) ∧
      substitute display text = String.ofList (pieces.flatMap fun
        | .character c => [c]
        | .placeholder name =>
            match display (String.ofList name) with
            | some shown => shown.toList
            | none => '{' :: (name ++ ['}']))) ∧
    (∀ first second : String, IsClosed first.toList →
      substitute display (first ++ second) =
        substitute display first ++ substitute display second) ∧
    ∀ text pieces, DividesInto text.toList pieces →
      (∀ name, .placeholder name ∈ pieces → display (String.ofList name) = none) →
      substitute display text = text := by
  refine ⟨?pass, ?append, ?unknown⟩
  case pass =>
    intro text
    refine ⟨ofCharacters text.toList, dividesInto_ofCharacters text.toList, ?_, ?_⟩
    · intro others divided
      exact divided.eq_ofCharacters
    · rw [substitute]
      refine congrArg String.ofList (List.flatMap_congr ?_)
      intro piece _
      cases piece <;> rfl
  case append =>
    intro first second closed
    exact substitute_append closed second
  case unknown =>
    intro text pieces divided unknown
    exact substitute_of_unknown divided unknown

/-- A display text between braces is not looked up again. -/
theorem substitute_of_braced_phrase :
    let display := fun name =>
      if name = "x" then some (braced "y") else if name = "y" then some "Y" else none
    substitute display "\x7bx\x7d\x7by\x7d" = braced "y" ++ "Y" := by
  intro display
  have divided : DividesInto "\x7bx\x7d\x7by\x7d".toList
      [.placeholder ['x'], .placeholder ['y']] := by
    have isFirst : IsName ['x'] := ⟨by decide, by decide⟩
    have isSecond : IsName ['y'] := ⟨by decide, by decide⟩
    exact .placeholder isFirst (.placeholder isSecond .nil)
  obtain ⟨pieces, -, unique, result⟩ := (substitute_in_one_pass display).1 "\x7bx\x7d\x7by\x7d"
  rw [result, ← unique _ divided]
  rfl

/-- A brace that nothing closes is copied, with the text behind it. -/
theorem substitute_open_brace (closed : IsClosed before.toList) (noBrace : '}' ∉ between.toList) :
    substitute display (before ++ "\x7b" ++ between) =
      substitute display before ++ "\x7b" ++ between := by
  have noBraceBehind : '}' ∉ ("\x7b" ++ between).toList := by simpa using noBrace
  rw [String.append_assoc, substitute_append closed, substitute_of_notMem noBraceBehind,
    String.append_assoc]

/-- A brace that is left open takes all up to the next closing one for a name. -/
theorem substitute_behind_open_brace (closed : IsClosed before.toList)
    (noBrace : '}' ∉ between.toList) (noBraceInName : '}' ∉ name.toList) (second : String) :
    substitute display (before ++ "\x7b" ++ between ++ braced name ++ second) =
      substitute display before ++
        (display (between ++ "\x7b" ++ name)).getD (braced (between ++ "\x7b" ++ name)) ++
        substitute display second := by
  have longer : '}' ∉ (between ++ "\x7b" ++ name).toList := by simp [noBrace, noBraceInName]
  have nonempty : between ++ "\x7b" ++ name ≠ "" := by
    intro empty
    simpa using congrArg String.toList empty
  have together : before ++ "\x7b" ++ between ++ braced name ++ second =
      before ++ (braced (between ++ "\x7b" ++ name) ++ second) := by
    simp only [braced, String.append_assoc]
  rw [together, substitute_append closed, substitute_braced nonempty longer]
  exact String.append_assoc.symm

/-- A placeholder of a known name is replaced behind closed braces.  Behind a brace that is left
open it is the end of a longer name, and the display text of that name decides. -/
theorem substitute_around_placeholder (known : display name = some shown) (nonempty : name ≠ "")
    (noBrace : '}' ∉ name.toList) (first second : String) :
    (IsClosed first.toList →
      substitute display (first ++ braced name ++ second) =
        substitute display first ++ shown ++ substitute display second) ∧
    (¬ IsClosed first.toList →
      ∃ before between : String, first = before ++ "\x7b" ++ between ∧
        IsClosed before.toList ∧ '}' ∉ between.toList ∧
        substitute display (first ++ braced name ++ second) =
          substitute display before ++
            (display (between ++ "\x7b" ++ name)).getD (braced (between ++ "\x7b" ++ name)) ++
            substitute display second ∧
        (substitute display (first ++ braced name ++ second) =
            substitute display first ++ shown ++ substitute display second ↔
          (display (between ++ "\x7b" ++ name)).getD (braced (between ++ "\x7b" ++ name)) =
            "\x7b" ++ between ++ shown)) := by
  constructor
  · intro closed
    rw [String.append_assoc, substitute_append closed, substitute_braced nonempty noBrace, known,
      Option.getD_some, String.append_assoc]
  · intro notClosed
    obtain ⟨front, back, same, closed, noBraceBehind⟩ := exists_open_brace _ notClosed
    obtain ⟨before, rfl⟩ : ∃ before : String, front = before.toList :=
      ⟨String.ofList front, String.toList_ofList.symm⟩
    obtain ⟨between, rfl⟩ : ∃ between : String, back = between.toList :=
      ⟨String.ofList back, String.toList_ofList.symm⟩
    obtain rfl : first = before ++ "\x7b" ++ between := by
      apply String.toList_injective
      simpa using same
    have taken := @substitute_behind_open_brace display name _ _ closed noBraceBehind noBrace second
    refine ⟨before, between, rfl, closed, noBraceBehind, taken, ?_⟩
    have together : substitute display before ++ "\x7b" ++ between ++ shown ++
        substitute display second =
        substitute display before ++ ("\x7b" ++ between ++ shown) ++ substitute display second := by
      simp only [String.append_assoc]
    rw [taken, substitute_open_brace closed noBraceBehind, together, String.append_left_inj,
      String.append_right_inj]

/-- A known name behind an unknown one, with an open brace behind it. -/
theorem substitute_behind_unknown_name :
    let display := fun name => if name = "x" then some "X" else none
    display "x" = some "X" ∧ IsClosed "\x7bb\x7d ".toList ∧
      substitute display ("\x7bb\x7d " ++ braced "x" ++ "\x7b") =
        substitute display "\x7bb\x7d " ++ "X" ++ substitute display "\x7b" := by
  intro display
  have closed : IsClosed ['{', 'b', '}', ' '] := by simp [isClosed_cons_iff, isClosed_nil]
  have replaced := substitute_around_placeholder (rfl : display "x" = some "X") (by decide)
    (by decide) "\x7bb\x7d " "\x7b"
  exact ⟨rfl, closed, replaced.1 closed⟩

/-- A brace in front of a placeholder, with nothing that closes it, keeps it from being replaced. -/
theorem substitute_ne_of_stray_brace :
    let display := fun name => if name = "x" then some "X" else none
    display "x" = some "X" ∧
      substitute display ("\x7b " ++ "\x7bx\x7d" ++ "") ≠
        substitute display "\x7b " ++ "X" ++ substitute display "" := by
  intro display
  have empty : substitute display "" = "" := substitute_of_notMem (by decide)
  have brace : substitute display "\x7b " = "\x7b " := substitute_of_notMem (by decide)
  have closed : IsClosed "".toList := isClosed_nil
  have swallowed := @substitute_behind_open_brace display "x" "" " " closed (by decide)
    (by decide) ""
  have unknown : display (" " ++ "\x7b" ++ "x") = none := rfl
  have written : "\x7b " ++ "\x7bx\x7d" ++ "" = "" ++ "\x7b" ++ " " ++ braced "x" ++ "" := by decide
  rw [empty, unknown] at swallowed
  refine ⟨rfl, ?_⟩
  rw [empty, brace, written, swallowed]
  decide

end Placeholder

end BackOfEnvelope
