import Mathlib.Data.List.Basic
import Projections.Language.Canonical
import Projections.Proofs.Language.Parsing
import Projections.Proofs.Number.Text

/-! Spellings of tokens. Text is taken apart from the front: each spelling is one token
whatever comes after it, if only that does not go on with the word or the number. -/

namespace Projections

/-- The token of an operator. -/
def BinaryOp.sign : BinaryOp → Token
  | .equal => .equal
  | .notEqual => .notEqual
  | .less => .less
  | .greater => .greater
  | .lessEqual => .lessEqual
  | .greaterEqual => .greaterEqual
  | .add => .plus
  | .subtract => .minus
  | .multiply => .star
  | .divide => .slash
  | .modulo => .percent
  | .and => .and
  | .or => .or
  | .coalesce => .coalesce

namespace Lexer

/-! ### Texts of tokens -/

/-- `Lexes cs ts`: the characters are the tokens with blanks between them. -/
inductive Lexes : List Char → List Token → Prop
  | nil : Lexes [] []
  | blank {c : Char} {cs : List Char} {ts : List Token} :
      Text.isBlank c = true → Lexes cs ts → Lexes (c :: cs) ts
  | token {c : Char} {cs : List Char} {t : Token} (width : Nat) {ts : List Token} :
      Text.isBlank c = false → (∀ position, scan position c cs = .ok (t, width + 1)) →
      Lexes (cs.drop width) ts → Lexes (c :: cs) (t :: ts)

theorem skipBlanks_cons {c : Char} (h : Text.isBlank c = true) (position : Nat) (cs : List Char) :
    Cursor.skipBlanks ⟨position, c :: cs⟩ = Cursor.skipBlanks ⟨position + 1, cs⟩ := by
  simp only [Cursor.skipBlanks, Cursor.advance, List.takeWhile_cons, h, if_true,
    List.length_cons, List.drop_succ_cons, Cursor.mk.injEq, and_true]
  omega

theorem skipBlanks_self {c : Char} (h : Text.isBlank c = false) (position : Nat)
    (cs : List Char) : Cursor.skipBlanks ⟨position, c :: cs⟩ = ⟨position, c :: cs⟩ := by
  simp [Cursor.skipBlanks, Cursor.advance, h]

/-- Turns for every character are enough to collect all tokens. -/
theorem collect_of_lexes {cs : List Char} {ts : List Token} (h : Lexes cs ts) :
    ∀ position turns, cs.length ≤ turns →
      (Lexed.collect turns ⟨position, cs⟩).tokens = ts ∧
        ∃ last, (Lexed.collect turns ⟨position, cs⟩).ending = .finished last := by
  induction h with
  | nil =>
    intro position turns _
    cases turns with
    | zero => exact ⟨rfl, _, rfl⟩
    | succ turns => exact ⟨rfl, _, rfl⟩
  | @blank c cs ts hc _ ih =>
    intro position turns hturns
    cases turns with
    | zero => cases hturns
    | succ turns =>
      have hnext : Cursor.next ⟨position, c :: cs⟩ = Cursor.next ⟨position + 1, cs⟩ := by
        unfold Cursor.next
        rw [skipBlanks_cons hc]
      rw [Lexed.collect, hnext]
      exact ih (position + 1) (turns + 1) (Nat.le_of_succ_le hturns)
  | @token c cs t width ts hc hscan _ ih =>
    intro position turns hturns
    cases turns with
    | zero => cases hturns
    | succ turns =>
      have hnext : Cursor.next ⟨position, c :: cs⟩ =
          .ok (some t, ⟨position + (width + 1), cs.drop width⟩) := by
        unfold Cursor.next
        rw [skipBlanks_self hc]
        dsimp only
        rw [hscan]
        rfl
      have hrest : (cs.drop width).length ≤ turns := by
        rw [List.length_drop]
        rw [List.length_cons] at hturns
        omega
      obtain ⟨htokens, last, hlast⟩ := ih (position + (width + 1)) turns hrest
      rw [Lexed.collect, hnext]
      exact ⟨congrArg (t :: ·) htokens, last, hlast⟩

theorem tokenizes_of_lexes {source : String} {ts : List Token} (h : Lexes source.toList ts) :
    Grammar.Tokenizes source ts :=
  collect_of_lexes h 0 _ (Nat.le_refl _)

/-! ### Classes of characters -/

theorem continuesName_of_blanks : ∀ r ∈ Text.blanks, ∀ n ∈ List.range' r.1 (r.2 + 1 - r.1),
    continuesName (Char.ofNat n) = false := by
  decide +kernel

theorem continuesName_of_isBlank {c : Char} (h : Text.isBlank c = true) :
    continuesName c = false := by
  rw [Text.isBlank, Text.within, List.any_eq_true] at h
  obtain ⟨r, hr, hin⟩ := h
  simp only [Bool.and_eq_true, decide_eq_true_eq] at hin
  have hname := continuesName_of_blanks r hr c.toNat (List.mem_range'_1.2 (by omega))
  rwa [Char.ofNat_toNat] at hname

theorem isBlank_of_startsName {c : Char} (h : startsName c = true) : Text.isBlank c = false := by
  by_contra hb
  have hname := continuesName_of_isBlank (Bool.eq_true_of_not_eq_false hb)
  simp only [continuesName, Text.isAlphanumeric, Bool.or_eq_false_iff] at hname
  simp [startsName, hname] at h

theorem isDigit_bounds {c : Char} (h : c.isDigit = true) : 48 ≤ c.toNat ∧ c.toNat ≤ 57 := by
  simp only [Char.isDigit, Bool.and_eq_true, decide_eq_true_eq] at h
  exact h

theorem continuesName_of_isDigit {c : Char} (h : c.isDigit = true) : continuesName c = true := by
  have hlt : c.toNat < 128 := Nat.lt_of_le_of_lt (isDigit_bounds h).2 (by decide)
  simp [continuesName, Text.isAlphanumeric, Text.isNumeric, hlt, h]

theorem classes_of_digits : ∀ n ∈ List.range' 48 10,
    startsName (Char.ofNat n) = false ∧ Text.isBlank (Char.ofNat n) = false := by
  decide +kernel

theorem classes_of_isDigit {c : Char} (h : c.isDigit = true) :
    startsName c = false ∧ Text.isBlank c = false := by
  have hbounds := isDigit_bounds h
  have hclasses := classes_of_digits c.toNat (List.mem_range'_1.2 (by omega))
  rwa [Char.ofNat_toNat] at hclasses

/-- The end of a run of characters. -/
theorem takeWhile_run {p : Char → Bool} {run rest : List Char} (h : ∀ c ∈ run, p c = true)
    (hr : ∀ c ∈ rest.head?, p c = false) :
    (run ++ rest).takeWhile p = run ∧ (run ++ rest).dropWhile p = rest := by
  rw [List.takeWhile_append_of_pos h, List.dropWhile_append_of_pos h]
  cases rest with
  | nil => simp
  | cons c rest => simp [hr c rfl]

/-- What comes after a token does not go on with a word or a number. -/
structure Stops (rest : List Char) : Prop where
  name : ∀ c ∈ rest.head?, continuesName c = false
  number : ∀ c after, rest = '.' :: c :: after → c.isDigit = false

theorem Stops.digit {rest : List Char} (h : Stops rest) : ∀ c ∈ rest.head?, c.isDigit = false := by
  intro c hc
  by_contra hd
  rw [Bool.not_eq_false] at hd
  have := h.name c hc
  rw [continuesName_of_isDigit hd] at this
  cases this

/-! ### Spellings -/

variable {rest : List Char} {ts : List Token}

theorem scan_of_startsName {c : Char} (h : startsName c = true) (position : Nat)
    (cs : List Char) :
    scan position c cs =
      .ok (word (c :: cs.takeWhile continuesName), (cs.takeWhile continuesName).length + 1) := by
  unfold scan
  split <;> try exact absurd h (by decide)
  rw [if_pos h]
  rfl

theorem scan_of_isDigit {c : Char} (h : c.isDigit = true) (position : Nat) (cs : List Char) :
    scan position c cs = scanNumber position (c :: cs) := by
  unfold scan
  split <;> try exact absurd h (by decide)
  rw [if_neg (by rw [(classes_of_isDigit h).1]; decide), if_pos h]

/-- A word is one token. -/
theorem Lexes.word {cs : List Char} (hw : isWord cs = true) (hs : Stops rest)
    (h : Lexes rest ts) : Lexes (cs ++ rest) (Lexer.word cs :: ts) := by
  cases cs with
  | nil => cases hw
  | cons c more =>
    simp only [isWord, Bool.and_eq_true, List.all_eq_true] at hw
    obtain ⟨hrun, -⟩ := takeWhile_run hw.2 hs.name
    rw [List.cons_append]
    refine .token more.length (isBlank_of_startsName hw.1) (fun position => ?_) ?_
    · rw [scan_of_startsName hw.1, hrun]
    · rwa [List.drop_left]

/-- A number is one token, if its scan takes all its characters. -/
theorem Lexes.number {cs : List Char} {t : Token} (hd : ∀ c ∈ cs.head?, c.isDigit = true)
    (hne : cs ≠ []) (hscan : ∀ position, scanNumber position (cs ++ rest) = .ok (t, cs.length))
    (h : Lexes rest ts) : Lexes (cs ++ rest) (t :: ts) := by
  cases cs with
  | nil => exact absurd rfl hne
  | cons c more =>
    have hc := hd c rfl
    rw [List.cons_append] at hscan ⊢
    refine .token more.length (classes_of_isDigit hc).2 (fun position => ?_) ?_
    · rw [scan_of_isDigit hc, hscan]
      rfl
    · rwa [List.drop_left]

theorem scanNumber_integer {digits : List Char} {n : Int64} (hd : IsDigits digits)
    (hn : checkedInt64 (readDigits digits) = some n) (hs : Stops rest) (position : Nat) :
    scanNumber position (digits ++ rest) = .ok (.integer n, digits.length) := by
  obtain ⟨htake, hdrop⟩ := takeWhile_run hd.2 hs.digit
  unfold scanNumber
  rw [htake, hdrop]
  dsimp only
  rw [hn]
  split
  · next after =>
    have hfraction : after.takeWhile Char.isDigit = [] := by
      cases after with
      | nil => rfl
      | cons c after => rw [List.takeWhile_cons, hs.number c after rfl, if_neg Bool.false_ne_true]
    rw [hfraction]
    rfl
  · rfl

theorem scanNumber_float {front back : List Char} {x : Binary64}
    (hp : Binary64.Pointed front back x) (hs : Stops rest) (position : Nat) :
    scanNumber position (front ++ '.' :: back ++ rest) =
      .ok (.float x, (front ++ '.' :: back).length) := by
  have hdot : ∀ c ∈ ('.' :: (back ++ rest)).head?, c.isDigit = false := by
    rintro c ⟨⟩
    decide
  obtain ⟨htake, hdrop⟩ := takeWhile_run hp.frontDigits.2 hdot
  obtain ⟨hback, -⟩ := takeWhile_run hp.backDigits.2 hs.digit
  unfold scanNumber
  rw [List.append_assoc, List.cons_append, htake, hdrop]
  dsimp only
  split
  · next after heq =>
    obtain rfl : back ++ rest = after := List.tail_eq_of_cons_eq heq
    rw [hback, if_neg (by simpa using hp.backDigits.1), hp.reads, List.length_append,
      List.length_cons, Nat.add_assoc, Nat.add_comm 1]
  · next hne => exact absurd rfl (hne _)

theorem Lexes.integer {digits : List Char} {n : Int64} (hd : IsDigits digits)
    (hn : checkedInt64 (readDigits digits) = some n) (hs : Stops rest) (h : Lexes rest ts) :
    Lexes (digits ++ rest) (.integer n :: ts) :=
  .number (fun c hc => hd.2 c (List.mem_of_mem_head? hc)) hd.1 (scanNumber_integer hd hn hs) h

theorem Lexes.float {front back : List Char} {x : Binary64} (hp : Binary64.Pointed front back x)
    (hs : Stops rest) (h : Lexes rest ts) :
    Lexes (front ++ '.' :: back ++ rest) (.float x :: ts) := by
  refine .number (fun c hc => ?_) (by simp) (scanNumber_float hp hs) h
  rw [List.head?_append_of_ne_nil _ hp.frontDigits.1] at hc
  exact hp.frontDigits.2 c (List.mem_of_mem_head? hc)

/-! ### Quoted texts -/

/-- One character of a quoted text, escaped or not. -/
theorem scanString_sourceEscape (c : Char) (start position : Nat) (cs : List Char) :
    scanString '"' start position (Text.sourceEscape c ++ cs) =
      match scanString '"' start (position + (Text.sourceEscape c).length) cs with
      | .ok (text, width) => .ok (c :: text, width + (Text.sourceEscape c).length)
      | .error e => .error e := by
  unfold Text.sourceEscape
  split
  iterate 5 rfl
  · next hquote hslash _ _ _ =>
    conv_lhs => unfold scanString
    dsimp only [List.singleton_append]
    rw [if_neg hquote, if_neg hslash]
    rfl

/-- A text that the source form quotes is read back up to its closing quote. -/
theorem scanString_quoted (cs rest : List Char) (start position : Nat) :
    scanString '"' start position (cs.flatMap Text.sourceEscape ++ '"' :: rest) =
      .ok (cs, (cs.flatMap Text.sourceEscape).length + 1) := by
  induction cs generalizing position with
  | nil =>
    unfold scanString
    rfl
  | cons c cs ih =>
    rw [List.flatMap_cons, List.append_assoc, scanString_sourceEscape, ih, List.length_append]
    simp only [Except.ok.injEq, Prod.mk.injEq, true_and]
    omega

theorem Lexes.string (cs : List Char) (h : Lexes rest ts) :
    Lexes (Text.sourceQuoted cs ++ rest) (.string (String.ofList cs) :: ts) := by
  unfold Text.sourceQuoted
  rw [List.cons_append, List.cons_append, List.append_assoc]
  refine .token ((cs.flatMap Text.sourceEscape).length + 1) rfl (fun position => ?_) ?_
  · change (match scanString '"' position (position + 1) _ with
      | .ok (text, width) => _
      | .error e => _) = _
    rw [List.singleton_append, scanString_quoted]
  · have hdrop : ∀ run : List Char, (run ++ '"' :: rest).drop (run.length + 1) = rest := by
      intro run
      rw [← List.drop_drop, List.drop_left]
      rfl
    rwa [List.singleton_append, hdrop]

/-! ### Signs -/

/-- A sign of one character. -/
theorem Lexes.sign {c : Char} {t : Token} (hb : Text.isBlank c = false)
    (hscan : ∀ position cs, scan position c cs = .ok (t, 1)) (h : Lexes rest ts) :
    Lexes (c :: rest) (t :: ts) :=
  .token 0 hb (fun position => hscan position rest) h

theorem Lexes.space (h : Lexes rest ts) : Lexes (' ' :: rest) ts := .blank rfl h

theorem Lexes.bang (hne : rest.head? ≠ some '=') (h : Lexes rest ts) :
    Lexes ('!' :: rest) (.bang :: ts) := by
  refine .token 0 rfl (fun position => ?_) h
  change Except.ok (withEqual .bang .notEqual rest) = _
  rw [withEqual, if_neg hne]

theorem Lexes.arrow (h : Lexes rest ts) : Lexes ('=' :: '>' :: rest) (.arrow :: ts) :=
  .token 1 rfl (fun _ => rfl) h

theorem Lexes.operator (op : BinaryOp) (h : Lexes rest ts) :
    Lexes (op.symbol.toList ++ ' ' :: rest) (op.sign :: ts) := by
  have hspace : Lexes (' ' :: rest) ts := .space h
  cases op with
  | equal | notEqual | lessEqual | greaterEqual | and | or | coalesce =>
    exact .token 1 rfl (fun _ => rfl) hspace
  | less | greater | add | subtract | multiply | divide | modulo =>
    exact .token 0 rfl (fun _ => rfl) hspace

end Lexer

end Projections
