import BackOfEnvelope.PathExpansion

/-!
# Plain paths

A path is plain if none of its dollar signs begins a reference or is doubled, and if it does not
begin with a tilde that stands for the home directory.  Expansion leaves plain paths as they are in
every environment.  Any other path it changes in some environment, as it becomes shorter where no
variable is set, or where the home directory is empty.
-/

namespace BackOfEnvelope

namespace PathExpansion

variable {environment : Environment} {c : Char} {text rest value expanded suffix : List Char}
variable {path : String}

/-- A dollar sign with this text behind it neither begins a reference nor is doubled. -/
def StandsAlone : List Char → Prop
  | '{' :: inside => '}' ∉ inside
  | c :: _ => c ≠ '$' ∧ ¬ isNameCharacter c
  | [] => True

def HasPlainDollars (text : List Char) : Prop :=
  ∀ rest, '$' :: rest <:+ text → StandsAlone rest

/-- A tilde stands alone in front. -/
def BeginsAtHome (text : List Char) : Prop :=
  text = ['~'] ∨ ['~', '/'] <+: text

structure IsPlain (path : String) : Prop where
  dollars : HasPlainDollars path.toList
  away : ¬ BeginsAtHome path.toList

/-- Expansion leaves the path as it is. -/
def Keeps (environment : Environment) (path : String) : Prop :=
  expand? environment path = some path

@[simp]
theorem hasPlainDollars_nil : HasPlainDollars [] := by
  simp [HasPlainDollars]

theorem hasPlainDollars_cons_iff :
    HasPlainDollars (c :: text) ↔ (c = '$' → StandsAlone text) ∧ HasPlainDollars text := by
  simp only [HasPlainDollars, List.suffix_cons_iff]
  constructor
  · intro plain
    refine ⟨?_, fun rest suffix => plain rest (.inr suffix)⟩
    rintro rfl
    exact plain text (.inl rfl)
  · rintro ⟨head, tail⟩ rest (same | suffix)
    · cases same
      exact head rfl
    · exact tail rest suffix

theorem hasPlainDollars_append_of_not_mem {first second : List Char} (noDollar : '$' ∉ first)
    (plain : HasPlainDollars second) : HasPlainDollars (first ++ second) := by
  induction first with
  | nil => exact plain
  | cons c others ih =>
      rw [List.mem_cons, not_or] at noDollar
      exact hasPlainDollars_cons_iff.mpr ⟨fun same => absurd same.symm noDollar.1, ih noDollar.2⟩

theorem expandVariables?_nil : expandVariables? environment [] = some [] := by
  rw [expandVariables?, parts]
  rfl

theorem expandVariables?_dollar (rest : List Char) :
    expandVariables? environment ('$' :: rest) =
      ((readReference rest).1.value? environment).bind fun value =>
        (expandVariables? environment (readReference rest).2).map (value ++ ·) := by
  rw [expandVariables?, parts, if_pos rfl, List.mapM_cons, expandVariables?]
  cases (readReference rest).1.value? environment with
  | none => rfl
  | some value => cases (parts (readReference rest).2).mapM (PathPart.value? environment) <;> rfl

theorem expandVariables?_other (other : c ≠ '$') (rest : List Char) :
    expandVariables? environment (c :: rest) =
      (expandVariables? environment rest).map (c :: ·) := by
  rw [expandVariables?, parts, if_neg other, List.mapM_cons, expandVariables?]
  cases (parts rest).mapM (PathPart.value? environment) <;> rfl

/-- The environment in which no variable is set. -/
def unset : Environment := fun _ => none

theorem length_splitAtDefault {default : List Char}
    (divided : (splitAtDefault text).2 = some default) : default.length ≤ text.length := by
  fun_induction splitAtDefault text with
  | case1 behind =>
      cases divided
      simp only [List.length_cons]
      omega
  | case2 c rest _ name behind same ih =>
      rw [same] at ih
      have shorter := ih divided
      simp only [List.length_cons]
      omega
  | case3 => cases divided

theorem length_value?_bracedReference {inside : List Char}
    (found : (bracedReference inside).value? unset = some value) :
    value.length ≤ inside.length := by
  unfold bracedReference at found
  dsimp only at found
  split at found
  · cases found
  · exact length_splitAtDefault found

theorem readReference_closed {inside : List Char} (noBrace : '}' ∉ inside) (behind : List Char) :
    readReference ('{' :: (inside ++ '}' :: behind)) = (bracedReference inside, behind) := by
  have before : ∀ c ∈ inside, (c != '}') = true := by
    rintro c member
    rw [bne_iff_ne]
    rintro rfl
    exact noBrace member
  simp [readReference, List.takeWhile_append_of_pos before, List.dropWhile_append_of_pos before]

theorem readReference_unclosed {inside : List Char} (noBrace : '}' ∉ inside) :
    readReference ('{' :: inside) = (.text ['$', '{'], inside) := by
  simp only [readReference, List.contains_iff_mem, if_neg noBrace]

theorem readReference_of_ne {others : List Char} (noBrace : c ≠ '{') (single : c ≠ '$') :
    readReference (c :: others) =
      if isNameCharacter c then
        (.reference (String.ofList ((c :: others).takeWhile isNameCharacter)) none,
          (c :: others).drop ((c :: others).takeWhile isNameCharacter).length)
      else (.text ['$'], c :: others) := by
  unfold readReference
  split
  · next same => exact absurd (List.cons.inj same).1 noBrace
  · next same => exact absurd (List.cons.inj same).1 single
  · by_cases named : isNameCharacter c
    · simp [named]
    · simp [named]

theorem standsAlone_cons_iff {others : List Char} (noBrace : c ≠ '{') :
    StandsAlone (c :: others) ↔ c ≠ '$' ∧ ¬ isNameCharacter c := by
  unfold StandsAlone
  split
  · next same => exact absurd (List.cons.inj same).1 noBrace
  · next same =>
      cases same
      rfl
  · next same => cases same

/-- A dollar sign that stands alone is kept with what is read behind it.  Without any variables
any other part becomes shorter. -/
theorem exists_readReference (rest : List Char) :
    ∃ part written behind, rest = written ++ behind ∧ readReference rest = (part, behind) ∧
      ((StandsAlone rest ∧ '$' ∉ written ∧ part = .text ('$' :: written)) ∨
        (¬ StandsAlone rest ∧ ∀ value, part.value? unset = some value →
          value.length ≤ written.length)) := by
  cases rest with
  | nil => exact ⟨_, [], [], rfl, rfl, .inl ⟨trivial, by simp, rfl⟩⟩
  | cons c others =>
      -- The cases are those of the reader: a brace, a second dollar sign, a name, anything else.
      by_cases brace : c = '{'
      · subst brace
        by_cases closed : '}' ∈ others
        · obtain ⟨inside, behind, rfl, noBrace⟩ := List.eq_append_cons_of_mem closed
          refine ⟨_, '{' :: (inside ++ ['}']), behind, by simp,
            readReference_closed noBrace behind, .inr ⟨fun unclosed => unclosed closed, ?_⟩⟩
          intro value found
          have shorter := length_value?_bracedReference found
          simp only [List.length_cons, List.length_append]
          omega
        · exact ⟨_, ['{'], others, rfl, readReference_unclosed closed, .inl ⟨closed, by simp, rfl⟩⟩
      · rw [standsAlone_cons_iff brace]
        by_cases doubled : c = '$'
        · subst doubled
          refine ⟨.text ['$'], ['$'], others, rfl, rfl, .inr ⟨fun alone => alone.1 rfl, ?_⟩⟩
          intro value found
          cases found
          exact Nat.le_refl 1
        · rw [readReference_of_ne brace doubled]
          by_cases named : isNameCharacter c
          · rw [if_pos named]
            refine ⟨_, (c :: others).takeWhile isNameCharacter, _, ?_, rfl,
              .inr ⟨fun alone => alone.2 named, ?_⟩⟩
            · exact (List.prefix_iff_eq_append.mp (List.takeWhile_prefix _)).symm
            · intro value found
              cases found
          · rw [if_neg named]
            exact ⟨_, [], _, rfl, rfl, .inl ⟨⟨doubled, named⟩, by simp, rfl⟩⟩

/-- Plain dollar signs are kept in every environment. -/
theorem expandVariables?_of_hasPlainDollars (environment : Environment)
    (plain : HasPlainDollars text) : expandVariables? environment text = some text := by
  -- A part may take several characters, so the induction is on the length of the text.
  induction size : text.length using Nat.strongRecOn generalizing text with
  | ind size ih =>
      cases text with
      | nil => exact expandVariables?_nil
      | cons c rest =>
          obtain ⟨alone, plainRest⟩ := hasPlainDollars_cons_iff.mp plain
          rw [List.length_cons] at size
          by_cases dollar : c = '$'
          · subst dollar
            obtain ⟨part, written, behind, rfl, read, ⟨-, -, rfl⟩ | ⟨notAlone, -⟩⟩ :=
              exists_readReference rest
            · have plainBehind : HasPlainDollars behind := fun others suffix =>
                plainRest others (suffix.trans (List.suffix_append written behind))
              rw [List.length_append] at size
              rw [expandVariables?_dollar, read]
              simp [PathPart.value?, ih behind.length (by omega) plainBehind rfl]
            · exact absurd (alone rfl) notAlone
          · rw [expandVariables?_other dollar, ih rest.length (by omega) plainRest rfl]
            rfl

/-- Without any variables a text never becomes longer, and stays as long only with plain dollar
signs. -/
theorem length_expandVariables?_unset (expands : expandVariables? unset text = some expanded) :
    expanded.length ≤ text.length ∧
      (expanded.length = text.length → HasPlainDollars text) := by
  induction size : text.length using Nat.strongRecOn generalizing text expanded with
  | ind size ih =>
      cases text with
      | nil =>
          rw [expandVariables?_nil] at expands
          cases expands
          exact ⟨Nat.zero_le _, fun _ => hasPlainDollars_nil⟩
      | cons c rest =>
          rw [List.length_cons] at size
          by_cases dollar : c = '$'
          · subst dollar
            obtain ⟨part, written, behind, rfl, read, ways⟩ := exists_readReference rest
            rw [expandVariables?_dollar, read] at expands
            obtain ⟨value, found, expands⟩ := Option.bind_eq_some_iff.mp expands
            obtain ⟨others, expandsBehind, rfl⟩ := Option.map_eq_some_iff.mp expands
            rw [List.length_append] at size
            obtain ⟨shorter, plainBehind⟩ := ih behind.length (by omega) expandsBehind rfl
            obtain ⟨alone, noDollar, rfl⟩ | ⟨-, shrinks⟩ := ways
            · cases found
              simp only [List.length_append, List.length_cons]
              refine ⟨by omega, fun same => hasPlainDollars_cons_iff.mpr ⟨fun _ => alone, ?_⟩⟩
              exact hasPlainDollars_append_of_not_mem noDollar (plainBehind (by omega))
            · have bound := shrinks value found
              simp only [List.length_append]
              exact ⟨by omega, fun same => by omega⟩
          · rw [expandVariables?_other dollar] at expands
            obtain ⟨others, expandsRest, rfl⟩ := Option.map_eq_some_iff.mp expands
            obtain ⟨shorter, plainRest⟩ := ih rest.length (by omega) expandsRest rfl
            simp only [List.length_cons]
            refine ⟨by omega, fun same => hasPlainDollars_cons_iff.mpr ⟨fun isDollar => ?_, ?_⟩⟩
            · exact absurd isDollar dollar
            · exact plainRest (by omega)

theorem beginsAtHome_cons_iff :
    BeginsAtHome ('~' :: rest) ↔ (rest.isEmpty || rest.head? = some '/') = true := by
  cases rest <;> simp [BeginsAtHome, eq_comm]

theorem exists_of_beginsAtHome (home : BeginsAtHome text) : ∃ rest, text = '~' :: rest := by
  obtain rfl | ⟨rest, rfl⟩ := home
  · exact ⟨[], rfl⟩
  · exact ⟨'/' :: rest, rfl⟩

theorem expandTilde_of_away (away : ¬ BeginsAtHome text) :
    expandTilde environment text = text := by
  unfold expandTilde
  split
  · next rest =>
      rw [if_neg]
      exact fun home => away (beginsAtHome_cons_iff.mpr home)
  · rfl

theorem expandTilde_unset (text : List Char) : expandTilde unset text = text := by
  unfold expandTilde
  split
  · split <;> rfl
  · rfl

/-- The environment in which only the home directory is set. -/
def homeOnly (home : String) : Environment :=
  fun name => if name = homeVariable then some home else none

theorem expandTilde_homeOnly (home : String) (atHome : BeginsAtHome ('~' :: rest)) :
    expandTilde (homeOnly home) ('~' :: rest) = home.toList ++ rest := by
  rw [expandTilde, if_pos (beginsAtHome_cons_iff.mp atHome), homeOnly, if_pos rfl]

theorem keeps_iff (expands : expandVariables? environment path.toList = some expanded) :
    Keeps environment path ↔
      (if path.toList.head? = some '~' then expandTilde environment expanded else expanded) =
        path.toList := by
  rw [Keeps, expand?, expands, Option.map_some, Option.some.injEq, ← String.toList_inj,
    String.toList_ofList]

theorem StandsAlone.append (alone : StandsAlone text) (begins : suffix.head? = some '/')
    (noBrace : '}' ∉ suffix) : StandsAlone (text ++ suffix) := by
  cases text with
  | nil =>
      obtain ⟨rest, rfl⟩ := List.head?_eq_some_iff.mp begins
      rw [List.nil_append, standsAlone_cons_iff (by decide)]
      decide
  | cons c others =>
      by_cases brace : c = '{'
      · subst brace
        exact fun closed => (List.mem_append.mp closed).elim alone noBrace
      · rw [standsAlone_cons_iff brace] at alone
        rw [List.cons_append, standsAlone_cons_iff brace]
        exact alone

theorem HasPlainDollars.append (plain : HasPlainDollars text) (begins : suffix.head? = some '/')
    (noDollar : '$' ∉ suffix) (noBrace : '}' ∉ suffix) : HasPlainDollars (text ++ suffix) := by
  induction text with
  | nil => exact fun rest within => absurd (within.subset List.mem_cons_self) noDollar
  | cons c others ih =>
      rw [hasPlainDollars_cons_iff] at plain
      rw [List.cons_append, hasPlainDollars_cons_iff]
      exact ⟨fun same => (plain.1 same).append begins noBrace, ih plain.2⟩

theorem beginsAtHome_of_append (begins : suffix.head? = some '/')
    (home : BeginsAtHome (text ++ suffix)) : BeginsAtHome text := by
  obtain ⟨rest, rfl⟩ := List.head?_eq_some_iff.mp begins
  match text with
  | [] => simp [BeginsAtHome] at home
  | [c] => simpa [BeginsAtHome, eq_comm] using home
  | c :: d :: others => simpa [BeginsAtHome] using home

/-- A suffix that begins with a slash, has no dollar sign and closes no brace. -/
structure IsPlainSuffix (suffix : String) : Prop where
  begins : suffix.toList.head? = some '/'
  noDollar : '$' ∉ suffix.toList
  noBrace : '}' ∉ suffix.toList

theorem IsPlain.append {suffix : String} (plain : IsPlain path)
    (plainSuffix : IsPlainSuffix suffix) : IsPlain (path ++ suffix) := by
  constructor
  case dollars =>
    rw [String.toList_append]
    exact plain.dollars.append plainSuffix.begins plainSuffix.noDollar plainSuffix.noBrace
  case away =>
    rw [String.toList_append]
    exact fun home => plain.away (beginsAtHome_of_append plainSuffix.begins home)

theorem IsPlain.keeps (plain : IsPlain path) (environment : Environment) :
    Keeps environment path := by
  rw [keeps_iff (expandVariables?_of_hasPlainDollars environment plain.dollars),
    expandTilde_of_away plain.away, ite_self]

/-- A path is left as it is in every environment just if it is plain. -/
theorem forall_keeps_iff : (∀ environment, Keeps environment path) ↔ IsPlain path := by
  refine ⟨?_, IsPlain.keeps⟩
  intro keeps
  -- Without variables a dollar sign that is not plain shortens the path.
  have dollars : HasPlainDollars path.toList := by
    obtain ⟨expanded, expands, -⟩ := Option.map_eq_some_iff.mp (keeps unset)
    have kept := (keeps_iff expands).mp (keeps unset)
    rw [expandTilde_unset, ite_self] at kept
    exact (length_expandVariables?_unset expands).2 (congrArg List.length kept)
  refine ⟨dollars, ?_⟩
  -- With plain dollar signs only the tilde is left to expand, and an empty home shortens the path.
  intro home
  obtain ⟨rest, same⟩ := exists_of_beginsAtHome home
  have kept := (keeps_iff (expandVariables?_of_hasPlainDollars (homeOnly "") dollars)).mp
    (keeps (homeOnly ""))
  rw [same] at home kept
  rw [List.head?_cons, if_pos rfl, expandTilde_homeOnly "" home] at kept
  simpa using congrArg List.length kept

end PathExpansion

end BackOfEnvelope
