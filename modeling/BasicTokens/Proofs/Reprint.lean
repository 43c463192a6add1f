import BasicTokens.Proofs.Lines
import BasicTokens.Proofs.Reports

/-!
# Proofs/Reprint — tokens printed one to a line are read back

A token's text is cut again by itself: it is the text of a lexeme, or a reserved word
(`Cut.reprint`).  Line after line, so is what is printed (`exists_scan_intercalate`).  The one token
that comes back as another kind is the reserved word `REM`, which is read off a spelling that is not
the comment marker and printed as the marker.
-/

namespace BasicTokens

open Character Grammar Text

/-- Level and code: what a diagnostic says apart from its place and the text at fault. -/
def Diagnostic.grade (d : Diagnostic) : Diagnostic.Level × Option Diagnostic.Code :=
  (d.level, d.code)

/-- Level and code of what is reported about an error. -/
def LexicalError.grade (e : LexicalError) : Diagnostic.Level × Option Diagnostic.Code :=
  (e.level, some e.code)

namespace Token

/-- The texts of tokens, one to a line. -/
def print (tokens : List Token) : Text := List.intercalate ['\n'] (tokens.map Token.text)

/-- **What a printed token comes back as**: a token of the same text and kind, save that the
reserved word `REM` comes back as a comment. -/
structure Reprinted (t u : Token) : Prop where
  text_eq : u.text = t.text
  kind_eq : u.kind = if t.kind = .keyword ∧ t.text = remark then .comment else t.kind

variable {settings : Settings} {s : Text} {t u : Token} {a b : Nat}

/-! ## The place of a token -/

/-- Kind and text do not depend on the place. -/
theorem ofTrimmed_eq (settings : Settings) (s : Text) (a b : Nat) :
    (ofTrimmed settings s a).kind = (ofTrimmed settings s b).kind ∧
      (ofTrimmed settings s a).text = (ofTrimmed settings s b).text := by
  have hplace : ∀ n, ofTrimmed settings s n = (ofTrimmed settings s 0).shift ⟨0, n, 0⟩ := by
    intro n
    rw [← ofTrimmed_shift, Nat.zero_add]
  rw [hplace a, hplace b]
  exact ⟨rfl, rfl⟩

/-- Nor does what is wrong with a token, but for its message. -/
theorem grade_problem? (hkind : t.kind = u.kind) (htext : t.text = u.text) :
    t.problem?.map LexicalError.grade = u.problem?.map LexicalError.grade := by
  have hplace : ∀ v : Token, v.problem?.map LexicalError.grade
      = ({ v with offset := 0 } : Token).problem?.map LexicalError.grade := by
    intro v
    have hshift : v = ({ v with offset := 0 } : Token).shift ⟨0, v.offset, 0⟩ := by simp [shift]
    rw [congrArg problem? hshift, problem?_shift, Option.map_map]
    refine congrArg (fun f => Option.map f _) (funext fun e => ?_)
    cases e <;> rfl
  rw [hplace t, hplace u, hkind, htext]

theorem Reprinted.grade_eq (h : Reprinted t u) :
    u.problem?.map LexicalError.grade = t.problem?.map LexicalError.grade := by
  by_cases hremark : t.kind = .keyword ∧ t.text = remark
  · have hkind : u.kind = .comment := h.kind_eq.trans (if_pos hremark)
    simp [problem?, hkind, hremark.1]
  · exact grade_problem? (h.kind_eq.trans (if_neg hremark)) h.text_eq

/-- Token by token, texts, levels and codes are the same. -/
theorem map_text_of_reprinted {tokens printed : List Token}
    (h : List.Forall₂ Reprinted tokens printed) :
    printed.map Token.text = tokens.map Token.text ∧
      printed.filterMap (fun t => t.problem?.map LexicalError.grade)
        = tokens.filterMap fun t => t.problem?.map LexicalError.grade := by
  induction h with
  | nil => exact ⟨rfl, rfl⟩
  | cons hone _ ih =>
    simp only [List.map_cons, List.filterMap_cons, hone.text_eq, hone.grade_eq, ih.1, ih.2,
      and_self]

end Token

namespace Lexeme

variable {settings : Settings} {category : Category} {s rest : Text} {offset : Nat}

/-! ## A printed text is cut again -/

/-- Apart from the comment marker, reserved words are names, and spelled as in the table. -/
theorem keyword_facts : ∀ k ∈ keywords, k ≠ remark → isIdentifier k = true ∧ k.toUpper = k ∧
    ∀ ignoreCase, startsRemark ignoreCase k = false := by
  decide

/-- **A reserved word is cut by itself**, as a word or, if it is the marker, as a comment. -/
theorem reprint_keyword {k : Text} (hk : k ∈ keywords) (settings : Settings) (offset : Nat) :
    (∃ category, Cut settings category k []) ∧ (Token.ofTrimmed settings k offset).text = k ∧
      (Token.ofTrimmed settings k offset).kind = if k = remark then .comment else .keyword := by
  by_cases hremark : k = remark
  · have hmarker : startsRemark settings.caseInsensitiveRemarks k = true :=
      startsRemark_of_exact (hremark ▸ by decide) _
    have hkind : (Token.ofTrimmed settings k offset).kind = .comment := Token.kind_of_marker hmarker
    have htext : (Token.ofTrimmed settings k offset).text = k :=
      Token.text_eq_of_kind_ne (by simp [hkind])
    refine ⟨⟨.comment, .comment hmarker ?_ ?_ (by simp [Text.line])⟩, htext, ?_⟩
    · simp [hremark, remark, isLineEnd]
    · exact hremark ▸ by decide
    · rw [hkind, if_pos hremark]
  · obtain ⟨hname, hupper, hmarker⟩ := keyword_facts k hk hremark
    have hspelled : ∃ k' ∈ keywords, equalsIgnoringCase k' k = true :=
      ⟨k, hk, by simp [equalsIgnoringCase]⟩
    have hkind : (Token.ofTrimmed settings k offset).kind = .keyword :=
      (Token.kind_of_name (hmarker _) hname).trans (if_pos hspelled)
    have htext := (Token.text_ofTrimmed settings k offset).2
    rw [if_pos hkind, hupper] at htext
    exact ⟨⟨.word, .word hname (hmarker _) rfl⟩, htext.1, by rw [hkind, if_neg hremark]⟩

/-- **The text of a token is cut by itself**, and its token is the same, but for its place and save
that the reserved word `REM` becomes a comment. -/
theorem Cut.reprint (h : Cut settings category s rest) (a b : Nat) :
    (∃ category', Cut settings category' (Token.ofTrimmed settings s a).text []) ∧
      Token.Reprinted (Token.ofTrimmed settings s a)
        (Token.ofTrimmed settings (Token.ofTrimmed settings s a).text b) := by
  by_cases hkeyword : (Token.ofTrimmed settings s a).kind = .keyword
  · have htext := (Token.text_ofTrimmed settings s a).2
    rw [if_pos hkeyword] at htext
    obtain ⟨hcut, hsame, hkind⟩ := reprint_keyword htext.2 settings b
    refine ⟨hcut, hsame, hkind.trans ?_⟩
    simp only [hkeyword, true_and]
  · obtain ⟨hkind, htext⟩ := Token.ofTrimmed_eq settings s b a
    rw [Token.text_eq_of_kind_ne hkeyword]
    refine ⟨⟨category, h.alone⟩, htext, ?_⟩
    rw [hkind, if_neg fun h => hkeyword h.1]

/-- Texts that are cut by themselves are cut from lines of their own. -/
theorem exists_scan_intercalate {texts : List Text}
    (h : ∀ t ∈ texts, ∃ category, Cut settings category t []) (p : Position) :
    ∃ lexemes, Scan settings p (List.intercalate ['\n'] texts) lexemes ∧
      lexemes.map Lexeme.text = texts := by
  have hone : ∀ {t : Text} {category : Category} (p : Position), Cut settings category t [] →
      Scan settings p t [placed category t p] := fun {t category} p hcut => by
    simpa using Scan.cut (w := []) (by simp) hcut (.done (by simp))
  induction texts generalizing p with
  | nil => exact ⟨[], .done (by simp), rfl⟩
  | cons t texts ih =>
    obtain ⟨⟨category, hcut⟩, htexts⟩ := List.forall_mem_cons.mp h
    cases texts with
    | nil => exact ⟨[placed category t p], by simpa using hone p hcut, rfl⟩
    | cons u texts =>
      obtain ⟨lexemes, hscan, hmap⟩ := ih htexts (p.after (t ++ ['\n']))
      refine ⟨placed category t p :: lexemes, ?_, congrArg (t :: ·) hmap⟩
      rw [List.intercalate_cons_cons, List.append_assoc]
      exact (hone p hcut).append_lineEnd rfl hscan

/-- **The reserved word `REM` is read off another spelling only**, and only where the marker is
recognized in upper case alone. -/
theorem Cut.spelling_of_remark (h : Cut settings category s rest)
    (hkind : (Token.ofTrimmed settings s offset).kind = .keyword)
    (hremark : (Token.ofTrimmed settings s offset).text = remark) :
    settings.caseInsensitiveRemarks = false ∧ s.toUpper = remark ∧ s ≠ remark := by
  have htext := (Token.text_ofTrimmed settings s offset).2
  rw [if_pos hkind, hremark] at htext
  obtain rfl : category = .word := List.mem_singleton.mp (h.category_of_kind hkind)
  cases h with
  | word name noMarker stop =>
    refine ⟨Bool.eq_false_iff.mpr fun hcase => ?_, htext.1.symm, ?_⟩
    · have hlen : s.length = remark.length := by rw [htext.1, Text.toUpper, List.length_map]
      have hfound : startsRemark true s = true := by
        simp only [startsRemark, if_true, List.take_of_length_le hlen.le, equalsIgnoringCase,
          ← htext.1]
        decide
      exact absurd (hcase ▸ noMarker) (by simp [hfound])
    · rintro rfl
      have hfound := startsRemark_of_exact (t := remark) (by decide) settings.caseInsensitiveRemarks
      exact absurd noMarker (by simp [hfound])

/-- That spelling is what the source has in the token's place. -/
theorem spelling_of_mem {source : Text} {l : Lexeme} (hl : l ∈ ofSource settings source)
    (hkind : (l.token settings).kind = .keyword) (hremark : (l.token settings).text = remark) :
    settings.caseInsensitiveRemarks = false ∧
      toUpper ((source.drop (l.token settings).offset).take 3) = remark ∧
        (source.drop (l.token settings).offset).take 3 ≠ remark := by
  obtain ⟨before, category, s, after, rfl, hcut, rfl⟩ :=
    (scan_ofSource settings source).exists_cut_of_mem hl
  rw [hcut.token_placed] at hkind hremark ⊢
  obtain ⟨hcase, hupper, hne⟩ := hcut.spelling_of_remark hkind hremark
  have hlen : s.length = 3 := by
    have := congrArg List.length hupper
    rwa [Text.toUpper, List.length_map] at this
  have hwritten : ((before ++ (s ++ after)).drop
      (Token.ofTrimmed settings s (Position.origin.after before).offset).offset).take 3 = s := by
    rw [(Token.text_ofTrimmed settings s _).1, Position.offset_after, Position.origin,
      Nat.zero_add, List.drop_left, ← hlen, List.take_left]
  rw [hwritten]
  exact ⟨hcase, hupper, hne⟩

/-! ## Runs over what was printed -/

/-- A lexeme of a derivation is a cut, and its token is made of its text as it is. -/
theorem Scan.token_eq_of_mem {p : Position} {t : Text} {lexemes : List Lexeme} {l : Lexeme}
    (h : Scan settings p t lexemes) (hl : l ∈ lexemes) :
    (∃ rest, Cut settings l.category l.text rest) ∧
      l.token settings = Token.ofTrimmed settings l.text l.offset := by
  obtain ⟨before, category, s, after, -, hcut, rfl⟩ := h.exists_cut_of_mem hl
  exact ⟨⟨after, hcut⟩, hcut.token_placed _⟩

/-- **The lexemes of what was printed**, next to those it was printed from. -/
theorem forall₂_reprinted (settings : Settings) (source : Text) :
    List.Forall₂ (fun l m => Token.Reprinted (l.token settings) (m.token settings))
      (ofSource settings source)
      (ofSource settings (Token.print ((ofSource settings source).map (·.token settings)))) := by
  have hscan := scan_ofSource settings source
  have hcuts : ∀ t ∈ ((ofSource settings source).map (·.token settings)).map Token.text,
      ∃ category, Cut settings category t [] := by
    simp only [List.map_map, List.forall_mem_map]
    intro l hl
    obtain ⟨⟨rest, hcut⟩, htoken⟩ := hscan.token_eq_of_mem hl
    rw [Function.comp_apply, htoken]
    exact (hcut.reprint l.offset 0).1
  obtain ⟨lexemes, hprinted, htexts⟩ := exists_scan_intercalate hcuts .origin
  rw [Token.print, hprinted.ofSource_eq]
  have hsame : List.Forall₂ (fun l m => (l.token settings).text = m.text)
      (ofSource settings source) lexemes := by
    rw [← List.forall₂_map_right_iff, htexts, List.forall₂_map_right_iff,
      List.forall₂_map_right_iff]
    exact List.forall₂_same.mpr fun l _ => rfl
  obtain ⟨hlength, hzip⟩ := List.forall₂_iff_zip.mp hsame
  refine List.forall₂_iff_zip.mpr ⟨hlength, fun {l m} hlm => ?_⟩
  obtain ⟨hl, hm⟩ := List.of_mem_zip hlm
  obtain ⟨⟨rest, hcut⟩, htoken⟩ := hscan.token_eq_of_mem hl
  rw [(hprinted.token_eq_of_mem hm).2, ← hzip hlm, htoken]
  exact (hcut.reprint l.offset m.offset).2

/-- The levels and codes of what is reported follow from the tokens. -/
theorem map_grade_diagnostic? (settings : Settings) (lexemes : List Lexeme) :
    (lexemes.filterMap (·.diagnostic? settings)).map Diagnostic.grade
      = (lexemes.map (·.token settings)).filterMap fun t => t.problem?.map LexicalError.grade := by
  rw [List.map_filterMap, List.filterMap_map]
  refine congrArg (fun f => List.filterMap f lexemes) (funext fun l => ?_)
  have hgrade : Diagnostic.grade ∘ (·.report l.span) = LexicalError.grade := funext fun e => by
    rw [Function.comp_apply, Diagnostic.grade, LexicalError.level_report, LexicalError.code_report,
      LexicalError.grade]
  rw [diagnostic?, Option.map_map, hgrade]
  rfl

end Lexeme

open Lexeme

/-- **Printing tokens is stable**: read again, they are the same texts in the same order, of the
same kinds save for the reserved word `REM`, with diagnostics of the same levels and codes, and
printed again they give the same text.  The exception concerns spellings of `REM` that are not the
marker, and only where the marker is recognized in upper case alone. -/
theorem tokenizeCollecting_print (settings : Settings) (source : Text) :
    let first := tokenizeCollecting settings source
    let second := tokenizeCollecting settings (Token.print first.1)
    List.Forall₂ Token.Reprinted first.1 second.1 ∧
      second.2.map Diagnostic.grade = first.2.map Diagnostic.grade ∧
      Token.print second.1 = Token.print first.1 ∧
      ∀ t ∈ first.1, t.kind = .keyword → t.text = remark →
        settings.caseInsensitiveRemarks = false ∧
          toUpper ((source.drop t.offset).take 3) = remark ∧
            (source.drop t.offset).take 3 ≠ remark := by
  simp only [tokenizeCollecting_eq, map_grade_diagnostic?]
  have htokens : List.Forall₂ Token.Reprinted ((ofSource settings source).map (·.token settings))
      ((ofSource settings (Token.print ((ofSource settings source).map (·.token settings)))).map
        (·.token settings)) := by
    simpa only [List.forall₂_map_left_iff, List.forall₂_map_right_iff] using
      forall₂_reprinted settings source
  obtain ⟨htexts, hgrades⟩ := Token.map_text_of_reprinted htokens
  refine ⟨htokens, hgrades, congrArg (List.intercalate ['\n']) htexts, ?_⟩
  intro t ht hkind hremark
  obtain ⟨l, hl, rfl⟩ := List.mem_map.mp ht
  exact spelling_of_mem hl hkind hremark

/-- The reserved word read off `rem`. -/
theorem tokenizeCollecting_print_rem :
    ⟨.keyword, remark, 0⟩ ∈ (tokenizeCollecting {} "rem".toList).1 ∧
      toUpper "rem".toList = remark ∧ "rem".toList ≠ remark := by
  have hmem : ⟨.keyword, remark, 0⟩ ∈ (tokenizeCollecting {} "rem".toList).1 := by decide +kernel
  exact ⟨hmem, ((tokenizeCollecting_print {} "rem".toList).2.2.2 _ hmem rfl rfl).2⟩

end BasicTokens
