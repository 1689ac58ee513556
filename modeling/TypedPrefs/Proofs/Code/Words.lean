import TypedPrefs.Code.Lexer
import TypedPrefs.Proofs.Naming.Identifiers

/-!
# Words of code

A text is cut into tokens so that every word is an identifier, or an identifier behind the mark of
raw ones. The mark makes a word no identifier.
-/

namespace TypedPrefs.Code

open Naming Text

/-! ## Names and words -/

/-- An identifier behind the mark of raw ones. -/
def IsRawName (s : String) : Prop := ∃ name, isIdentifier name = true ∧ s = "r#" ++ name

/-- What a word of code may be. -/
def IsWord (s : String) : Prop := isIdentifier s = true ∨ IsRawName s

/-- The names that have no raw form. -/
def plainNames : List String := ["_", "super", "self", "Self", "crate"]

/-- A word as it is cut out of a text. -/
inductive IsLexed : String → Prop
  | plain {name : String} : isIdentifier name = true → IsLexed name
  | raw {name : String} : isIdentifier name = true → name ∉ plainNames → IsLexed ("r#" ++ name)

theorem IsLexed.isWord {s : String} (h : IsLexed s) : IsWord s := by
  cases h with
  | plain hname => exact .inl hname
  | raw hname _ => exact .inr ⟨_, hname, rfl⟩

theorem IsRawName.not_isIdentifier {s : String} (h : IsRawName s) : isIdentifier s = false := by
  obtain ⟨name, -, rfl⟩ := h
  refine Bool.eq_false_iff.mpr fun hname => ?_
  exact not_mem_of_isIdentifier hname not_isNamePart_numberSign (by simp)

theorem IsWord.not_mem_colon {s : String} (h : IsWord s) : ':' ∉ s.toList := by
  rcases h with h | ⟨name, hname, rfl⟩
  · exact not_mem_of_isIdentifier h not_isNamePart_colon
  · simp [not_mem_of_isIdentifier hname not_isNamePart_colon]

theorem IsWord.ne_empty {s : String} (h : IsWord s) : s.toList ≠ [] := by
  rcases h with h | ⟨name, -, rfl⟩
  · exact ne_empty_of_isIdentifier h
  · simp

namespace Token

mutual

/-- The words in a token, also those inside of a group. -/
def words : Token → List String
  | .word s => [s]
  | .mark _ _ => []
  | .literal _ => []
  | .group _ inner => wordsOf inner

/-- The words in a row of tokens, also those inside of its groups. -/
def wordsOf : List Token → List String
  | [] => []
  | t :: ts => words t ++ wordsOf ts

end

/-- All words in a row of tokens satisfy `W`. -/
def AllWords (W : String → Prop) (ts : List Token) : Prop := ∀ w ∈ wordsOf ts, W w

variable {W : String → Prop}

@[simp] theorem allWords_nil : AllWords W [] := by simp [AllWords, wordsOf]

@[simp] theorem allWords_cons {t : Token} {ts : List Token} :
    AllWords W (t :: ts) ↔ (∀ w ∈ t.words, W w) ∧ AllWords W ts := by
  simp [AllWords, wordsOf, or_imp, forall_and]

@[simp] theorem allWords_append {ts us : List Token} :
    AllWords W (ts ++ us) ↔ AllWords W ts ∧ AllWords W us := by
  induction ts with
  | nil => simp
  | cons t ts ih => simp [ih, and_assoc]

@[simp] theorem allWords_reverse {ts : List Token} : AllWords W ts.reverse ↔ AllWords W ts := by
  induction ts with
  | nil => simp
  | cons t ts ih => simp [ih, and_comm]

theorem AllWords.behind {ts us : List Token} (h : AllWords W ts) (hsuffix : us <:+ ts) :
    AllWords W us := by
  obtain ⟨before, rfl⟩ := hsuffix
  exact (allWords_append.mp h).2

theorem allWords_group {d : Delimiter} {inner : List Token} :
    (∀ w ∈ (Token.group d inner).words, W w) ↔ AllWords W inner := by
  simp [words, AllWords]

end Token

/-! ## Lexemes -/

namespace Lexer

open Token

theorem isIdentifierChars_of_name? {s name after : List Char}
    (h : name? s = some (name, after)) : isIdentifierChars name = true := by
  cases s with
  | nil => cases h
  | cons c rest =>
    rw [name?] at h
    split at h
    · next hstart =>
      cases h
      rw [isIdentifierChars, hstart, Bool.true_and, List.all_takeWhile]
    · cases h

theorem isIdentifier_of_name? {s name after : List Char} (h : name? s = some (name, after)) :
    isIdentifier (String.ofList name) = true := by
  rw [isIdentifier, String.toList_ofList]
  exact isIdentifierChars_of_name? h

/-- What `word?` finds is a word. -/
theorem exists_word_of_word? {s after : List Char} {t : Token} (h : word? s = some (t, after)) :
    ∃ w, t = .word w ∧ IsLexed w := by
  unfold word? at h
  split at h
  · cases h
  · split at h
    · split at h
      · next name after' hname =>
        split at h
        · cases h
        · next hform =>
          cases h
          have hword : String.ofList ('r' :: '#' :: name) = "r#" ++ String.ofList name := by
            simp [← String.toList_inj]
          exact ⟨_, rfl, hword ▸ .raw (isIdentifier_of_name? hname)
            (fun hmem => hform (List.contains_iff_mem.mpr hmem))⟩
      · cases h
    · obtain ⟨⟨name, after'⟩, hname, heq⟩ := Option.map_eq_some_iff.mp h
      cases heq
      exact ⟨_, rfl, .plain (isIdentifier_of_name? hname)⟩

/-- What `mark?` finds is a mark. -/
theorem exists_mark_of_mark? {s after : List Char} {t : Token} (h : mark? s = some (t, after)) :
    ∃ c joint, t = .mark c joint := by
  unfold mark? at h
  split at h
  · -- an apostrophe: what is looked at behind it does not change the mark
    split at h
    split at h
    · cases h
    · repeat' split at h
      all_goals cases h
      exact ⟨_, _, rfl⟩
  · split at h
    · cases h
      exact ⟨_, _, rfl⟩
    · cases h
  · cases h

/-- The words in a token that is read off a text. -/
theorem isLexed_of_token? {s after : List Char} {t : Token} (h : token? s = some (t, after)) :
    ∀ w ∈ t.words, IsLexed w := by
  unfold token? at h
  split at h
  · cases h
    simp [words]
  · split at h
    · next found hmark =>
      cases h
      obtain ⟨c, joint, rfl⟩ := exists_mark_of_mark? hmark
      simp [words]
    · obtain ⟨w, rfl, hw⟩ := exists_word_of_word? h
      simpa [words] using hw

/-- The words in a lexeme. -/
def lexemeWords : Lexeme → List String
  | .token t => t.words
  | .opening _ => []
  | .closing _ => []

/-- Documentation only adds the name of its attribute. -/
theorem lexemeWords_docLexemes (inner : Bool) (text : List Char) :
    (docLexemes inner text).flatMap lexemeWords = ["doc"] := by
  cases inner <;> rfl

theorem isLexed_of_docLexemes {inner : Bool} {text : List Char} {l : Lexeme}
    (hl : l ∈ docLexemes inner text) {w : String} (hw : w ∈ lexemeWords l) : IsLexed w := by
  have hmem := List.mem_flatMap.mpr ⟨l, hl, hw⟩
  rw [lexemeWords_docLexemes, List.mem_singleton] at hmem
  exact hmem ▸ .plain (by decide)

theorem isLexed_of_lexemes? {fuel : Nat} {s : List Char} {ls : List Lexeme}
    (h : lexemes? fuel s = some ls) : ∀ l ∈ ls, ∀ w ∈ lexemeWords l, IsLexed w := by
  induction fuel generalizing s ls with
  | zero => cases h
  | succ fuel ih =>
    cases s with
    | nil =>
      cases h
      simp
    | cons c rest =>
      -- a bracket adds no word to those of the lexemes behind it
      have bracket {l : Lexeme} (hl : lexemeWords l = [])
          (hmap : (lexemes? fuel rest).map (l :: ·) = some ls) :
          ∀ l ∈ ls, ∀ w ∈ lexemeWords l, IsLexed w := by
        obtain ⟨ls', hls', rfl⟩ := Option.map_eq_some_iff.mp hmap
        simpa [hl] using ih hls'
      rw [lexemes?] at h
      split at h
      · exact ih h
      · split at h
        -- comments: the plain ones are passed over, those that document are lexemes
        · exact ih h
        · split at h
          · cases h
          · obtain ⟨ls', hls', rfl⟩ := Option.map_eq_some_iff.mp h
            intro l hl
            rcases List.mem_append.mp hl with hl | hl
            · exact fun w hw => isLexed_of_docLexemes hl hw
            · exact ih hls' l hl
        · dsimp only at h
          split at h
          iterate 6 exact bracket rfl h
          split at h
          · next t after htoken =>
            obtain ⟨ls', hls', rfl⟩ := Option.map_eq_some_iff.mp h
            intro l hl
            rcases List.mem_cons.mp hl with rfl | hl
            · exact isLexed_of_token? htoken
            · exact ih hls' l hl
          · cases h

/-! ## Trees -/

/-- The words of a tree are those of its lexemes. -/
theorem allWords_of_trees? {W : String → Prop} {ls : List Lexeme}
    (hls : ∀ l ∈ ls, ∀ w ∈ lexemeWords l, W w) {pending : List (Delimiter × List Token)}
    (hpending : ∀ p ∈ pending, AllWords W p.2) {done : List Token} (hdone : AllWords W done)
    {ts : List Token} (h : trees? pending done ls = some ts) : AllWords W ts := by
  induction ls generalizing pending done with
  | nil =>
    cases pending with
    | nil =>
      cases h
      exact allWords_reverse.mpr hdone
    | cons p pending => cases h
  | cons l ls ih =>
    obtain ⟨hl, hrest⟩ := List.forall_mem_cons.mp hls
    cases l with
    | token t =>
      rw [trees?] at h
      exact ih hrest hpending (allWords_cons.mpr ⟨hl, hdone⟩) h
    | opening d =>
      rw [trees?] at h
      exact ih hrest (List.forall_mem_cons.mpr ⟨hdone, hpending⟩) allWords_nil h
    | closing d =>
      cases pending with
      | nil => cases h
      | cons p pending =>
        obtain ⟨e, before⟩ := p
        obtain ⟨hbefore, hpending⟩ := List.forall_mem_cons.mp hpending
        rw [trees?] at h
        split at h
        · exact ih hrest hpending
            (allWords_cons.mpr ⟨allWords_group.mpr (allWords_reverse.mpr hdone), hbefore⟩) h
        · cases h

end Lexer

/-- **The words of a text** are identifiers, some of them behind the mark of raw ones. -/
theorem allLexed_of_tokens? {s : String} {ts : List Token} (h : tokens? s = some ts) :
    Token.AllWords IsLexed ts := by
  obtain ⟨ls, hls, htrees⟩ := Option.bind_eq_some_iff.mp h
  exact Lexer.allWords_of_trees? (Lexer.isLexed_of_lexemes? hls) (by simp) Token.allWords_nil htrees

end TypedPrefs.Code
