import Mathlib.Data.List.TakeWhile
import Projections.Proofs.Language.Spelling

/-! Sources whose tokens are set apart. Calls for the next token go forward and end within as many
as the source has characters and one more. The text of a token is that token wherever it stands,
if nothing or a blank comes after it, so that the tokens of a source are those of their texts with
any blanks between them. -/

namespace Projections

/-- Where an error is said to be. -/
def LexError.position : LexError → ℕ
  | .unexpectedCharacter _ position | .incompleteOperator _ position _
  | .unterminatedString position | .invalidEscape _ position | .invalidNumber _ position => position

namespace Lexer

/-! ### One token -/

/-- Nothing comes, or a blank. -/
def Apart (rest : List Char) : Prop := ∀ c ∈ rest.head?, Text.isBlank c = true

theorem Apart.head?_ne {rest : List Char} (h : Apart rest) {c : Char}
    (hc : Text.isBlank c = false) : rest.head? ≠ some c := by
  intro hhead
  rw [h c hhead] at hc
  cases hc

theorem Apart.stops {rest : List Char} (h : Apart rest) : Stops rest where
  name c hc := continuesName_of_isBlank (h c hc)
  number c after heq := by
    rw [heq] at h
    exact absurd (h '.' rfl) (by decide)

theorem scanString_split {quote : Char} {start position width : ℕ} {cs text : List Char}
    (h : scanString quote start position cs = .ok (text, width)) :
    ∃ more rest, cs = more ++ rest ∧ width = more.length ∧ ∀ start position rest,
      scanString quote start position (more ++ rest) = .ok (text, width) := by
  fun_induction scanString quote start position cs generalizing text width with
  | case2 position rest =>
    cases h
    refine ⟨[quote], rest, rfl, rfl, fun start position rest => ?_⟩
    rw [List.singleton_append, scanString.eq_def]
    exact if_pos rfl
  | @case5 position mark after decoded hmark inner size hinner hslash ih =>
    cases h
    obtain ⟨more, rest, rfl, rfl, hmore⟩ := ih hinner
    refine ⟨'\\' :: mark :: more, rest, rfl, rfl, fun start position rest => ?_⟩
    rw [List.cons_append, scanString.eq_def]
    simp only [if_neg hslash, if_true, List.cons_append, hmark, hmore]
  | @case7 position c after hquote hslash inner size hinner ih =>
    cases h
    obtain ⟨more, rest, rfl, rfl, hmore⟩ := ih hinner
    refine ⟨c :: more, rest, rfl, rfl, fun start position rest => ?_⟩
    rw [List.cons_append, scanString.eq_def]
    simp only [if_neg hquote, if_neg hslash, hmore]
  | case1 | case3 | case4 | case6 | case8 => cases h

theorem isDigits_takeWhile {cs : List Char} (h : cs.takeWhile Char.isDigit ≠ []) :
    IsDigits (cs.takeWhile Char.isDigit) :=
  ⟨h, fun _ => List.mem_takeWhile_imp⟩

/-- The text of a number, which is scanned as the number wherever it stands apart. -/
theorem scanNumber_split {position width : ℕ} {cs : List Char} {t : Token}
    (hd : cs.takeWhile Char.isDigit ≠ []) (h : scanNumber position cs = .ok (t, width)) :
    ∃ text rest, cs = text ++ rest ∧ text ≠ [] ∧ width = text.length ∧
      ∀ position rest, Apart rest → scanNumber position (text ++ rest) = .ok (t, width) := by
  have hwhole := isDigits_takeWhile hd
  have hsplit := (List.takeWhile_append_dropWhile (p := Char.isDigit) (l := cs)).symm
  unfold scanNumber at h
  generalize cs.takeWhile Char.isDigit = whole at h hwhole hsplit
  dsimp only at h
  have hinteger : ∀ n, checkedInt64 (readDigits whole) = some n →
      ∃ text rest, cs = text ++ rest ∧ text ≠ [] ∧ whole.length = text.length ∧
        ∀ position rest, Apart rest →
          scanNumber position (text ++ rest) = .ok (.integer n, whole.length) :=
    fun n hn => ⟨whole, _, hsplit, hwhole.1, rfl, fun position rest hrest =>
      scanNumber_integer hwhole hn hrest.stops position⟩
  split at h
  · next rest hdot =>
    split_ifs at h with hempty
    · split at h <;> cases h
      next hn => exact hinteger _ hn
    · -- a digit follows the point, and so it does wherever the text stands
      cases h
      rw [List.isEmpty_iff] at hempty
      have hpointed : Binary64.Pointed whole (rest.takeWhile Char.isDigit)
          (.ofPoint whole (rest.takeWhile Char.isDigit)) := ⟨hwhole, isDigits_takeWhile hempty, rfl⟩
      have hlength : (whole ++ '.' :: rest.takeWhile Char.isDigit).length =
          whole.length + 1 + (rest.takeWhile Char.isDigit).length := by
        rw [List.length_append, List.length_cons]
        omega
      refine ⟨whole ++ '.' :: rest.takeWhile Char.isDigit, rest.dropWhile Char.isDigit, ?_,
        List.append_ne_nil_of_left_ne_nil hwhole.1 _, hlength.symm, fun position rest' hrest => ?_⟩
      · rw [hsplit, hdot, List.append_assoc, List.cons_append, List.takeWhile_append_dropWhile]
      · rw [scanNumber_float hpointed hrest.stops, hlength]
  · split at h <;> cases h
    next hn => exact hinteger _ hn

/-- A text that is one token wherever it stands apart. -/
def Denotes (text : List Char) (t : Token) : Prop :=
  ∃ c more, text = c :: more ∧ Text.isBlank c = false ∧ ∀ position rest, Apart rest →
    scan position c (more ++ rest) = .ok (t, more.length + 1)

/-- The first characters, as many as the width, are a text of the token. -/
def Splits (cs : List Char) (t : Token) (width : ℕ) : Prop :=
  ∃ text rest, cs = text ++ rest ∧ width = text.length ∧ Denotes text t

theorem splits_single {c : Char} {cs : List Char} {t : Token} (hb : Text.isBlank c = false)
    (h : ∀ position rest, Apart rest → scan position c rest = .ok (t, 1)) :
    Splits (c :: cs) t 1 :=
  ⟨[c], cs, rfl, rfl, c, [], rfl, hb, h⟩

theorem splits_double {c next : Char} {cs : List Char} {t : Token} (hb : Text.isBlank c = false)
    (hnext : cs.head? = some next)
    (h : ∀ position rest, scan position c (next :: rest) = .ok (t, 2)) :
    Splits (c :: cs) t 2 := by
  obtain ⟨rest, rfl⟩ := List.head?_eq_some_iff.1 hnext
  exact ⟨[c, next], rest, rfl, rfl, c, [next], rfl, hb, fun position rest _ => h position rest⟩

theorem splits_withEqual {c : Char} {cs : List Char} {single double t : Token} {width : ℕ}
    (hb : Text.isBlank c = false)
    (hc : ∀ position rest, scan position c rest = .ok (withEqual single double rest))
    (h : withEqual single double cs = (t, width)) : Splits (c :: cs) t width := by
  unfold withEqual at h hc
  split_ifs at h with hequal <;> cases h
  · exact splits_double hb hequal fun position rest => hc position ('=' :: rest)
  · refine splits_single hb fun position rest hrest => ?_
    rw [hc, if_neg (hrest.head?_ne rfl)]

theorem splits_pair {c next : Char} {cs : List Char} {token t : Token} {position width : ℕ}
    (hb : Text.isBlank c = false)
    (hc : ∀ position rest, scan position c rest = pair position c next token rest)
    (h : pair position c next token cs = .ok (t, width)) : Splits (c :: cs) t width := by
  unfold pair at h hc
  split_ifs at h with hnext
  cases h
  refine splits_double hb hnext fun position rest => ?_
  rw [hc, if_pos List.head?_cons]

theorem splits_word {c : Char} {cs : List Char} (hc : startsName c = true) :
    Splits (c :: cs) (word (c :: cs.takeWhile continuesName))
      (c :: cs.takeWhile continuesName).length := by
  refine ⟨c :: cs.takeWhile continuesName, cs.dropWhile continuesName, ?_, rfl, c, _, rfl,
    isBlank_of_startsName hc, fun position rest hrest => ?_⟩
  · rw [List.cons_append, List.takeWhile_append_dropWhile]
  · have hrun : ∀ d ∈ cs.takeWhile continuesName, continuesName d = true :=
      fun _ => List.mem_takeWhile_imp
    rw [scan_of_startsName hc, (takeWhile_run hrun hrest.stops.name).1]

theorem splits_number {c : Char} {cs : List Char} {t : Token} {position width : ℕ}
    (hc : c.isDigit = true) (h : scanNumber position (c :: cs) = .ok (t, width)) :
    Splits (c :: cs) t width := by
  have hd : (c :: cs).takeWhile Char.isDigit ≠ [] := by
    rw [List.takeWhile_cons_of_pos hc]
    exact List.cons_ne_nil _ _
  obtain ⟨_ | ⟨d, more⟩, rest, hcs, hne, rfl, hmore⟩ := scanNumber_split hd h
  · exact absurd rfl hne
  · obtain ⟨rfl, -⟩ := List.cons.inj hcs
    refine ⟨c :: more, rest, hcs, rfl, c, more, rfl, (classes_of_isDigit hc).2,
      fun position rest hrest => ?_⟩
    rw [scan_of_isDigit hc]
    exact hmore position rest hrest

theorem splits_string {quote : Char} {cs text : List Char} {start position width : ℕ}
    (hb : Text.isBlank quote = false)
    (hc : ∀ position rest, scan position quote rest =
      match scanString quote position (position + 1) rest with
      | .ok (text, width) => .ok (.string (String.ofList text), width + 1)
      | .error e => .error e)
    (h : scanString quote start position cs = .ok (text, width)) :
    Splits (quote :: cs) (.string (String.ofList text)) (width + 1) := by
  obtain ⟨more, rest, rfl, rfl, hmore⟩ := scanString_split h
  refine ⟨quote :: more, rest, rfl, rfl, quote, more, rfl, hb, fun position rest _ => ?_⟩
  rw [hc, hmore]

theorem splits_of_scan {position width : ℕ} {c : Char} {cs : List Char} {t : Token}
    (h : scan position c cs = .ok (t, width)) : Splits (c :: cs) t width := by
  unfold scan at h
  split at h
  case h_15 =>
    split at h <;> cases h
    · next hhead => exact splits_double rfl hhead fun _ _ => rfl
    · next hhead => exact splits_double rfl hhead fun _ _ => rfl
  case h_16 | h_17 | h_18 => exact splits_withEqual rfl (fun _ _ => rfl) (Except.ok.inj h)
  case h_19 | h_20 | h_21 => exact splits_pair rfl (fun _ _ => rfl) h
  case h_22 | h_23 =>
    split at h <;> cases h
    next hscan => exact splits_string rfl (fun _ _ => rfl) hscan
  case h_24 =>
    split_ifs at h with hname hdigit
    · cases h
      exact splits_word hname
    · exact splits_number hdigit h
  all_goals
    cases h
    exact splits_single rfl fun _ _ _ => rfl

theorem Denotes.lexes {text rest : List Char} {t : Token} {ts : List Token} (h : Denotes text t)
    (hrest : Apart rest) (hts : Lexes rest ts) : Lexes (text ++ rest) (t :: ts) := by
  obtain ⟨c, more, rfl, hb, hscan⟩ := h
  rw [List.cons_append]
  refine .token more.length hb (fun position => hscan position rest hrest) ?_
  rwa [List.drop_left]

/-! ### Errors -/

theorem scanString_error {quote : Char} {start position : ℕ} {cs : List Char} {e : LexError}
    (h : scanString quote start position cs = .error e) (hstart : start < position) :
    e.position < position + cs.length ∨ e.position = start := by
  fun_induction scanString quote start position cs with
  | case1 | case3 =>
    cases h
    exact .inr rfl
  | case2 | case5 | case7 => cases h
  | case4 =>
    cases h
    simp [LexError.position]
  | case6 position mark after decoded hmark inner hinner hslash ih =>
    cases h
    have := ih hinner (by omega)
    simp only [List.length_cons]
    omega
  | case8 position c after hquote hslash inner hinner ih =>
    cases h
    have := ih hinner (by omega)
    simp only [List.length_cons]
    omega

theorem scanNumber_error {position : ℕ} {cs : List Char} {e : LexError}
    (h : scanNumber position cs = .error e) : e.position = position := by
  unfold scanNumber at h
  dsimp only at h
  split at h
  · split_ifs at h
    split at h <;> cases h
    rfl
  · split at h <;> cases h
    rfl

theorem scan_error {position : ℕ} {c : Char} {cs : List Char} {e : LexError}
    (h : scan position c cs = .error e) : e.position < position + (c :: cs).length := by
  rw [List.length_cons]
  unfold scan at h
  split at h
  case h_15 =>
    split at h <;> cases h
    simp [LexError.position]
  case h_19 | h_20 | h_21 =>
    unfold pair at h
    split_ifs at h
    cases h
    simp [LexError.position]
  case h_22 | h_23 =>
    split at h <;> cases h
    next hstring =>
    have := scanString_error hstring (Nat.lt_succ_self position)
    omega
  case h_24 =>
    split_ifs at h
    · have := scanNumber_error h
      omega
    · cases h
      simp [LexError.position]
  all_goals cases h

/-! ### One call -/

theorem skipBlanks_split (cursor : Cursor) :
    ∃ blanks, (∀ c ∈ blanks, Text.isBlank c = true) ∧
      cursor.rest = blanks ++ cursor.skipBlanks.rest ∧
      cursor.skipBlanks.position = cursor.position + blanks.length :=
  ⟨cursor.rest.takeWhile Text.isBlank,
    fun _ => List.mem_takeWhile_imp,
    (List.prefix_iff_eq_append.1 (List.takeWhile_prefix _)).symm, rfl⟩

/-- A call that gives a token passes blanks and the text of the token. -/
theorem next_eq_token {cursor after : Cursor} {t : Token}
    (h : cursor.next = .ok (some t, after)) :
    ∃ blanks text, (∀ c ∈ blanks, Text.isBlank c = true) ∧ Denotes text t ∧
      cursor.rest = blanks ++ (text ++ after.rest) ∧
      after.position = cursor.position + blanks.length + text.length := by
  obtain ⟨blanks, hblanks, hsplit, hposition⟩ := skipBlanks_split cursor
  unfold Cursor.next at h
  dsimp only at h
  split at h
  · cases h
  · next c cs hrest =>
    split at h <;> cases h
    next width hscan =>
    obtain ⟨text, rest, hcs, rfl, htext⟩ := splits_of_scan hscan
    refine ⟨blanks, text, hblanks, htext, ?_, by rw [← hposition]; rfl⟩
    rw [hsplit, Cursor.advance, hrest, hcs, List.drop_left]

/-- A call that gives the end passes blanks only. -/
theorem next_eq_none {cursor after : Cursor} (h : cursor.next = .ok (none, after)) :
    (∀ c ∈ cursor.rest, Text.isBlank c = true) ∧
      after.position = cursor.position + cursor.rest.length := by
  obtain ⟨blanks, hblanks, hsplit, hposition⟩ := skipBlanks_split cursor
  unfold Cursor.next at h
  dsimp only at h
  split at h
  · next hrest =>
    cases h
    rw [hrest, List.append_nil] at hsplit
    rw [hsplit]
    exact ⟨hblanks, hposition⟩
  · split at h <;> cases h

theorem next_eq_error {cursor : Cursor} {e : LexError} (h : cursor.next = .error e) :
    e.position < cursor.position + cursor.rest.length := by
  obtain ⟨blanks, -, hsplit, hposition⟩ := skipBlanks_split cursor
  unfold Cursor.next at h
  dsimp only at h
  split at h
  · cases h
  · next c cs hrest =>
    split at h <;> cases h
    next hscan =>
    have hlt := scan_error hscan
    rw [hsplit, hrest, List.length_append, ← Nat.add_assoc, ← hposition]
    exact hlt

/-! ### Call after call -/

/-- `Calls k cursor lexed`: of `k` calls one after the other, from the cursor on, the last gives
the end or an error, and the others give the tokens and the places after them. -/
inductive Calls : ℕ → Cursor → Lexed → Prop
  | finished {cursor after : Cursor} : cursor.next = .ok (none, after) →
      Calls 1 cursor ⟨[], .finished after.position⟩
  | failed {cursor : Cursor} {e : LexError} : cursor.next = .error e →
      Calls 1 cursor ⟨[], .failed e⟩
  | token {k : ℕ} {cursor after : Cursor} {t : Token} {lexed : Lexed} :
      cursor.next = .ok (some t, after) → Calls k after lexed →
      Calls (k + 1) cursor ⟨⟨t, after.position⟩ :: lexed.lexemes, lexed.ending⟩

theorem calls_collect {turns : ℕ} (cursor : Cursor) (h : cursor.rest.length ≤ turns) :
    ∃ k ≤ cursor.rest.length + 1, Calls k cursor (Lexed.collect turns cursor) := by
  induction turns generalizing cursor with
  | zero =>
    obtain ⟨position, rest⟩ := cursor
    obtain rfl : rest = [] := List.length_eq_zero_iff.1 (Nat.le_zero.1 h)
    exact ⟨1, Nat.le_refl 1, .finished rfl⟩
  | succ turns ih =>
    rw [Lexed.collect]
    split
    · next hnext => exact ⟨1, Nat.le_add_left 1 _, .failed hnext⟩
    · next hnext => exact ⟨1, Nat.le_add_left 1 _, .finished hnext⟩
    · next t after hnext =>
      obtain ⟨blanks, _, -, ⟨c, more, rfl, -⟩, hsplit, -⟩ := next_eq_token hnext
      -- the token takes a character, so that the turns left suffice for the rest
      have hlt : after.rest.length < cursor.rest.length := by
        rw [hsplit, List.length_append, List.length_append, List.length_cons]
        omega
      obtain ⟨k, hk, hcalls⟩ := ih after (by omega)
      exact ⟨k + 1, by omega, .token hnext hcalls⟩

theorem calls_lex (source : String) :
    ∃ k ≤ source.length + 1, Calls k (.start source.toList) (lex source) :=
  calls_collect (.start source.toList) (Nat.le_refl _)

/-- A place in a source. -/
structure At (source : List Char) (cursor : Cursor) : Prop where
  le : cursor.position ≤ source.length
  rest : source.drop cursor.position = cursor.rest

theorem At.start (source : List Char) : At source (.start source) := ⟨Nat.zero_le _, rfl⟩

theorem At.length {source : List Char} {cursor : Cursor} (h : At source cursor) :
    cursor.position + cursor.rest.length = source.length := by
  rw [← h.rest, List.length_drop]
  exact Nat.add_sub_of_le h.le

/-- A token takes a place forward in its source. -/
theorem At.step {source : List Char} {cursor after : Cursor} {t : Token} (h : At source cursor)
    (hnext : cursor.next = .ok (some t, after)) :
    At source after ∧ cursor.position < after.position := by
  obtain ⟨blanks, text, -, ⟨c, more, rfl, -⟩, hsplit, hposition⟩ := next_eq_token hnext
  have hlength := h.length
  rw [hsplit, List.length_append, List.length_append, List.length_cons] at hlength
  rw [List.length_cons] at hposition
  refine ⟨⟨by omega, ?_⟩, by omega⟩
  rw [hposition, Nat.add_assoc, ← List.drop_drop, h.rest, hsplit, ← List.append_assoc]
  exact List.drop_left' (by simp)

/-- Places only go forward. -/
theorem Calls.forward {k : ℕ} {source : List Char} {cursor : Cursor} {lexed : Lexed}
    (h : Calls k cursor lexed) (hat : At source cursor) :
    (cursor.position :: lexed.lexemes.map (·.stop)).IsChain (· < ·) ∧
      ∀ stop ∈ lexed.lexemes.map (·.stop), stop ≤ source.length := by
  induction h with
  | finished | failed => exact ⟨.singleton _, by simp⟩
  | token hnext _ ih =>
    obtain ⟨hafter, hlt⟩ := hat.step hnext
    obtain ⟨hchain, hle⟩ := ih hafter
    exact ⟨.cons_cons hlt hchain, List.forall_mem_cons.2 ⟨hafter.le, hle⟩⟩

/-- The end is the end of the source, and an error is said to be before it. -/
theorem Calls.ending {k : ℕ} {source : List Char} {cursor : Cursor} {lexed : Lexed}
    (h : Calls k cursor lexed) (hat : At source cursor) :
    (∀ e, lexed.ending = .failed e → e.position < source.length) ∧
      ∀ position, lexed.ending = .finished position → position = source.length := by
  induction h with
  | finished hnext =>
    refine ⟨fun e he => (nomatch he), fun position hp => ?_⟩
    cases hp
    rw [(next_eq_none hnext).2, hat.length]
  | failed hnext =>
    refine ⟨fun e he => ?_, fun position hp => (nomatch hp)⟩
    cases he
    rw [← hat.length]
    exact next_eq_error hnext
  | token hnext _ ih => exact ih (hat.step hnext).1

/-! ### Own texts -/

/-- The text of each token, from the first character after the last token that is no blank. -/
def ownTexts (source : List Char) : ℕ → List Lexeme → List (List Char)
  | _, [] => []
  | previous, lexeme :: lexemes =>
    ((source.take lexeme.stop).drop previous).dropWhile Text.isBlank ::
      ownTexts source lexeme.stop lexemes

/-- Each of the texts is its token. -/
theorem Calls.denotes {k : ℕ} {source : List Char} {cursor : Cursor} {lexed : Lexed}
    (h : Calls k cursor lexed) (hat : At source cursor) :
    List.Forall₂ Denotes (ownTexts source cursor.position lexed.lexemes) lexed.tokens := by
  induction h with
  | finished | failed => exact .nil
  | @token k cursor after t lexed hnext _ ih =>
    refine .cons ?_ (ih (hat.step hnext).1)
    obtain ⟨blanks, text, hblanks, htext, hsplit, hposition⟩ := next_eq_token hnext
    have hown : (source.take after.position).drop cursor.position = blanks ++ text := by
      rw [List.drop_take, hat.rest, hsplit, ← List.append_assoc]
      refine List.take_left' ?_
      rw [List.length_append]
      omega
    obtain ⟨c, more, rfl, hc, -⟩ := id htext
    dsimp only
    rw [hown, (takeWhile_run hblanks (by simpa using hc)).2]
    exact htext

/-- `Spaced texts cs`: the characters are the texts one after the other, with blanks between any
two of them, and there may be blanks around. -/
inductive Spaced : List (List Char) → List Char → Prop
  | nil : Spaced [] []
  | blank {c : Char} {cs : List Char} {texts : List (List Char)} :
      Text.isBlank c = true → Spaced texts cs → Spaced texts (c :: cs)
  | last {text rest : List Char} : (∀ c ∈ rest, Text.isBlank c = true) →
      Spaced [text] (text ++ rest)
  | cons {text cs : List Char} {c : Char} {texts : List (List Char)} :
      Text.isBlank c = true → Spaced texts cs → Spaced (text :: texts) (text ++ c :: cs)

theorem lexes_of_blanks {cs : List Char} (h : ∀ c ∈ cs, Text.isBlank c = true) : Lexes cs [] := by
  induction cs with
  | nil => exact .nil
  | cons c cs ih =>
    rw [List.forall_mem_cons] at h
    exact .blank h.1 (ih h.2)

/-- Texts with blanks between them are the tokens that each of them is. -/
theorem Spaced.lexes {texts : List (List Char)} {cs : List Char} {ts : List Token}
    (h : Spaced texts cs) (hts : List.Forall₂ Denotes texts ts) : Lexes cs ts := by
  induction h generalizing ts with
  | nil =>
    cases hts
    exact .nil
  | blank hc _ ih => exact .blank hc (ih hts)
  | @last text rest hrest =>
    obtain ⟨t, _, ht, hnil, rfl⟩ := List.forall₂_cons_left_iff.1 hts
    cases hnil
    exact ht.lexes (fun c hc => hrest c (List.mem_of_mem_head? hc)) (lexes_of_blanks hrest)
  | cons hc _ ih =>
    obtain ⟨t, ts, ht, hrest, rfl⟩ := List.forall₂_cons_left_iff.1 hts
    refine ht.lexes ?_ (.blank hc (ih hrest))
    rintro d ⟨⟩
    exact hc

theorem parse_eq_ok_iff_of_tokenizes {source other : String} {ts : List Token}
    (h : Grammar.Tokenizes source ts) (h' : Grammar.Tokenizes other ts) (e : Expr) :
    parse other = .ok e ↔ parse source = .ok e := by
  constructor <;> intro hparse <;> obtain ⟨_, ⟨rfl, _⟩, hd⟩ := Grammar.derives_of_parse hparse
  · exact Grammar.parse_of_derives h (h'.1 ▸ hd)
  · exact Grammar.parse_of_derives h' (h.1 ▸ hd)

/-- Calls for the next token end within one more than the source has characters, and each token
takes them forward. If they come to the end, that is the end of the source, and the texts of its
tokens, set apart anyhow, are a source of the same tokens and the same expression. -/
theorem lex_respaced (source : String) :
    (∃ k ≤ source.length + 1, Calls k (.start source.toList) (lex source)) ∧
      (0 :: (lex source).lexemes.map (·.stop)).IsChain (· < ·) ∧
      (∀ stop ∈ (lex source).lexemes.map (·.stop), stop ≤ source.length) ∧
      (∀ e, (lex source).ending = .failed e → e.position < source.length) ∧
      ∀ position, (lex source).ending = .finished position →
        position = source.length ∧
          ∀ other : String, Spaced (ownTexts source.toList 0 (lex source).lexemes) other.toList →
            (lex other).tokens = (lex source).tokens ∧
              (lex other).ending = .finished other.length ∧
              ∀ e, parse other = .ok e ↔ parse source = .ok e := by
  obtain ⟨k, hk, hsource⟩ := calls_lex source
  have hstart := At.start source.toList
  obtain ⟨hchain, hle⟩ := hsource.forward hstart
  obtain ⟨hfailed, hfinished⟩ := hsource.ending hstart
  refine ⟨⟨k, hk, hsource⟩, hchain, hle, hfailed, fun position hend =>
    ⟨hfinished position hend, fun other hspaced => ?_⟩⟩
  have hother : Grammar.Tokenizes other (lex source).tokens :=
    tokenizes_of_lexes (hspaced.lexes (hsource.denotes hstart))
  obtain ⟨last, hlast⟩ := hother.2
  obtain ⟨_, -, hrun⟩ := calls_lex other
  have hlength : last = other.length := (hrun.ending (.start _)).2 last hlast
  exact ⟨hother.1, by rw [hlast, hlength],
    parse_eq_ok_iff_of_tokenizes ⟨rfl, position, hend⟩ hother⟩

/-- Blanks in a string are its own, and the point after a number may be set apart from it. -/
theorem lex_respaced_of_dense :
    (lex " x => x [ \"a b\" ] <=\n5 . Foo").tokens = (lex "x=>x[\"a b\"]<=5.Foo").tokens ∧
      ∀ e, parse " x => x [ \"a b\" ] <=\n5 . Foo" = .ok e ↔
        parse "x=>x[\"a b\"]<=5.Foo" = .ok e := by
  have hend : (lex "x=>x[\"a b\"]<=5.Foo").ending = .finished 18 := by decide +kernel
  have htexts : ownTexts "x=>x[\"a b\"]<=5.Foo".toList 0 (lex "x=>x[\"a b\"]<=5.Foo").lexemes =
      ["x".toList, "=>".toList, "x".toList, "[".toList, "\"a b\"".toList, "]".toList,
        "<=".toList, "5".toList, ".".toList, "Foo".toList] := by
    decide +kernel
  obtain ⟨-, -, -, -, hlex⟩ := lex_respaced "x=>x[\"a b\"]<=5.Foo"
  obtain ⟨-, hspaced⟩ := hlex 18 hend
  obtain ⟨htokens, -, hparse⟩ := hspaced " x => x [ \"a b\" ] <=\n5 . Foo" <| by
    rw [htexts]
    refine .blank rfl ?_
    iterate 9 refine .cons rfl ?_
    exact .last (by simp)
  exact ⟨htokens, hparse⟩

end Lexer

end Projections
