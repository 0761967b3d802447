import BackOfEnvelope.ExpressionParsing

/-!
# Places of tokens

A token that a text divides into stands in the text where its position says: its
lexeme begins there, behind as many characters as the position counts.
-/

namespace BackOfEnvelope

namespace PlacedToken

/-- The lexeme of a token begins at its position and reads as the token. -/
def StandsIn (placed : PlacedToken) (text : List Char) : Prop :=
  ∃ before first tail after, text = before ++ first :: (tail ++ after) ∧
    before.length = placed.position ∧ placed.lexeme = first :: tail ∧
    ExpressionToken.ofLexeme first tail placed.position = .ok placed.token

end PlacedToken

namespace ExpressionToken

theorem readFrom_nil (position : Nat) : readFrom position [] = .ok [] := by
  rw [readFrom.eq_def]

theorem readFrom_of_blank {position : Nat} {c : Char} (blank : isWhiteSpace c) (rest : List Char) :
    readFrom position (c :: rest) = readFrom (position + 1) rest := by
  rw [readFrom.eq_def]
  simp only [blank, if_true]

theorem readFrom_lexeme (position : Nat) {c : Char} (tail after : List Char)
    (visible : isWhiteSpace c = false) (sameTail : lexemeTail c (tail ++ after) = tail) :
    readFrom position (c :: (tail ++ after)) =
      match ofLexeme c tail position with
      | .error error => .error error
      | .ok token =>
          match readFrom (position + 1 + tail.length) after with
          | .error error => .error error
          | .ok others => .ok (⟨token, position, c :: tail⟩ :: others) := by
  rw [readFrom.eq_def]
  simp only [visible, sameTail, List.drop_left]
  rfl

theorem readFrom_of_lexeme {position : Nat} {c : Char} (tail : List Char) {after : List Char}
    {token : ExpressionToken} {others : List PlacedToken} (visible : ¬ isWhiteSpace c)
    (sameTail : lexemeTail c (tail ++ after) = tail)
    (isToken : ofLexeme c tail position = .ok token)
    (remaining : readFrom (position + 1 + tail.length) after = .ok others) :
    readFrom position (c :: (tail ++ after)) = .ok (⟨token, position, c :: tail⟩ :: others) := by
  rw [readFrom_lexeme position tail after (eq_false_of_ne_true visible) sameTail]
  simp only [isToken, remaining]

theorem leadingExponent_isPrefix (text : List Char) : leadingExponent text <+: text := by
  unfold leadingExponent
  split
  · next mark sign rest =>
      split
      · split
        · dsimp only
          split
          · exact List.nil_prefix
          · have digits : rest.takeWhile Char.isDigit <+: rest := List.takeWhile_prefix _
            simpa using digits
        · dsimp only
          split
          · exact List.nil_prefix
          · exact (List.prefix_cons_inj mark).mpr (List.takeWhile_prefix _)
      · exact List.nil_prefix
  · exact List.nil_prefix

theorem lexemeTail_isPrefix (first : Char) (rest : List Char) :
    lexemeTail first rest <+: rest := by
  unfold lexemeTail
  split
  · have numeral : rest.takeWhile isNumeralCharacter <+: rest := List.takeWhile_prefix _
    have exponent := leadingExponent_isPrefix (rest.drop (rest.takeWhile isNumeralCharacter).length)
    have both := (List.prefix_append_right_inj (rest.takeWhile isNumeralCharacter)).mpr exponent
    rwa [List.prefix_iff_eq_append.mp numeral] at both
  · split
    · exact List.takeWhile_prefix _
    · split
      · next star =>
          cases rest with
          | nil => simp at star
          | cons second others =>
              have isStar : second = '*' := by simpa using (Bool.and_eq_true_iff.mp star).2
              simp [isStar]
      · exact List.nil_prefix

theorem standsIn_of_readFrom {position : Nat} {text : List Char} {tokens : List PlacedToken}
    (passed : List Char) (behind : passed.length = position)
    (divided : readFrom position text = .ok tokens) :
    ∀ placed ∈ tokens, placed.StandsIn (passed ++ text) := by
  induction size : text.length using Nat.strongRecOn generalizing position passed text tokens with
  | ind size ih =>
      rw [readFrom.eq_def] at divided
      split at divided
      · cases divided
        simp
      · next c rest =>
          simp only [List.length_cons] at size
          split at divided
          · have others := ih rest.length (by omega) (passed ++ [c]) (by simp [behind]) divided rfl
            simpa using others
          · dsimp only at divided
            split at divided
            · cases divided
            · next token isToken =>
                split at divided
                · cases divided
                · next others remaining =>
                    cases divided
                    obtain ⟨after, sameRest⟩ := lexemeTail_isPrefix c rest
                    generalize lexemeTail c rest = tail at *
                    subst sameRest
                    rw [List.drop_left] at remaining
                    simp only [List.length_append] at size
                    have inOthers := ih after.length (by omega) (passed ++ c :: tail)
                      (by simp [behind]; omega) remaining rfl
                    intro placed member
                    cases member with
                    | head => exact ⟨passed, c, tail, after, rfl, behind, rfl, isToken⟩
                    | tail _ other => simpa using inOthers placed other

theorem standsIn_of_ofText {text : String} {tokens : List PlacedToken}
    (divided : ofText text = .ok tokens) : ∀ placed ∈ tokens, placed.StandsIn text.toList :=
  standsIn_of_readFrom [] rfl divided

end ExpressionToken

end BackOfEnvelope
