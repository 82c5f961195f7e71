import TemplateLexer.Proofs.Entry
import TemplateLexer.Proofs.Locality

/-!
# Skipped text

The body of a comment and the blanks between the tokens of a directive are skipped, and what is
skipped has no influence on the tokens: a comment with another body, or another run of blanks, gives
the same tokens, moved by the difference in size where they stand behind it (`trivia_skipped`).

Both are one argument. A scan comes to the skipped text in the same way whatever this text is,
because it looks the same from before it (`Path.comment`, `Path.blanks`). Behind it a scan stands as
it does behind the other one, and from there the tokens are the same (`tokenize_behind`).
-/

namespace TemplateLexer

open Text
open Lexer (commentOpen commentClose)
open Delimiters (standard)

variable {d : Delimiters} {source front rest : List Char} {ts : List Token} {p q : Place}
  {s : State} {m : Memory} {slot : Option Token} {t : Token}

/-! ### Where the tokens of a path lie -/

namespace Path

theorem front_le (h : Path d p ts q) : size p.front ≤ size q.front := by
  induction h with
  | refl => exact Nat.le_refl _
  | step hs _ ih => exact Nat.le_trans hs.front_le ih

theorem state_ne_none (h : Path d p ts q) (hq : q.state ≠ none) : p.state ≠ none := by
  cases h with
  | refl => exact hq
  | step hs =>
    obtain ⟨s, -, -, hstate, -⟩ := hs.exists_rule
    rw [hstate]
    exact Option.some_ne_none s

theorem le_offset (h : Path d p ts q) : ∀ t ∈ ts, size p.front ≤ t.offset := by
  induction h with
  | refl => simp
  | @step p p' q slot ts hs _ ih =>
    intro t ht
    rcases List.mem_append.mp ht with ht | ht
    · cases Option.mem_toList.mp ht
      exact Nat.le_of_eq hs.stop_eq.2.1.symm
    · exact Nat.le_trans hs.front_le (ih t ht)

/-- Short of the end, a path has left all its tokens behind. -/
theorem offset_lt (h : Path d p ts q) (hq : q.state ≠ none) : ∀ t ∈ ts, t.offset < size q.front := by
  induction h with
  | refl => simp
  | @step p p' q slot ts hs hpath ih =>
    intro t ht
    rcases List.mem_append.mp ht with ht | ht
    · cases Option.mem_toList.mp ht
      have hlen := hs.length_le
      rw [if_neg (hpath.state_ne_none hq), Option.toList_some, List.length_singleton] at hlen
      have hle := hpath.front_le
      have hoffset := hs.stop_eq.2.1
      omega
    · exact ih hq t ht

end Path

/-! ### Behind what is skipped -/

theorem Place.AtLimit.behind (h : p.AtLimit d) (front : List Char) (saw : Bool) :
    (p.behind front saw).AtLimit d :=
  ⟨h.state_eq, h.not_right, h.head_eq, h.limit_le⟩

/-- Where scans of two templates stand alike before the same text, behind some text and the same
tokens, the tokens from there on are the same, moved by the difference in size. -/
theorem tokenize_behind {front front' : List Char} (hne : front ≠ []) (hne' : front' ≠ [])
    (h : Path standard (Place.start (front ++ rest)) ts ⟨some s, front, [], rest, m⟩)
    (h' : Path standard (Place.start (front' ++ rest)) ts ⟨some s, front', [], rest, m⟩) :
    (∃ us vs, tokenize (front ++ rest) = .ok (ts ++ us) ∧
      tokenize (front' ++ rest) = .ok (ts ++ vs) ∧
      List.Forall₂ (Token.Moved (size front' - size front)) us vs ∧
      ∀ t ∈ us, size front ≤ t.offset) ∨
    (tokenize (front ++ rest) = .error .overflow ∧
      tokenize (front' ++ rest) = .error .overflow) := by
  obtain ⟨all, q, hall, hend⟩ := Lexer.exists_path "<input>" (front ++ rest) .default
  have hready := Place.ready_start standard (front ++ rest)
  have hfinal : q.Final standard := by
    rcases hend with ⟨hhalted, -⟩ | ⟨hlimit, -⟩
    · exact Place.final_of_halted hhalted
    · exact hlimit.final (hall.ready hready)
  obtain ⟨us, rfl, hus⟩ := hall.of_path hfinal hready h
  obtain ⟨y, vs, -, hmoved, hvs⟩ := hus.moved front' m.sawExtends (List.append_nil front).symm
    (.inr ⟨hne, hne', rfl⟩)
  rw [List.append_nil] at hvs
  have hall' := h'.trans hvs
  rcases hend with ⟨hhalted, hok⟩ | ⟨hlimit, hover⟩
  · exact .inl ⟨us, vs, hok, Lexer.tokens_of_path _ hall' hhalted, hmoved, hus.le_offset⟩
  · exact .inr ⟨hover, Lexer.tokens_of_limit _ hall' (hlimit.behind _ _)⟩

/-! ### Comments -/

/-- A comment with its delimiters. -/
def Delimiters.comment (d : Delimiters) (body : List Char) : List Char :=
  d.left ++ (commentOpen ++ body ++ commentClose ++ d.right)

theorem Rule.of_leftDelim {taken : List Char} {m' : Memory} {kind : TokenKind}
    {next : Option State} (h : Rule d front s m taken rest (.finish kind next) m')
    (hk : kind = .leftDelim) : s = .leftDelim ∧ taken = d.left := by
  cases h with
  | openComment | openAction => exact ⟨rfl, rfl⟩
  | run _ _ hruns =>
    subst hk
    cases hruns
  | word =>
    rcases wordKind_cases taken with hw | ⟨k, hw, -⟩
    · cases hw.symm.trans hk
    · cases hw.symm.trans hk
  | _ => cases hk

/-- A token that is a left delimiter shows that the scan has come to it. -/
theorem exists_path_of_leftDelim {before after : List Token}
    (h : tokenize (front ++ rest) = .ok (before ++ t :: after)) (hkind : t.kind = .leftDelim)
    (hoffset : t.offset = size front) :
    t = ⟨.leftDelim, size front, standard.left⟩ ∧ ∃ m,
      Path standard (Place.start (front ++ rest)) before ⟨some .leftDelim, front, [], rest, m⟩ := by
  obtain ⟨q, hpath, -⟩ := Lexer.exists_path_of_tokens h
  obtain ⟨p₀, p₁, hbefore, hstep, -⟩ := hpath.exists_split
  have hsource := hbefore.run.source_eq
  have hheld := hbefore.run.ready.held_eq
  cases hstep with
  | finish hr =>
    obtain ⟨rfl, rfl⟩ := hr.of_leftDelim hkind
    cases hheld
    cases hkind
    simp only [List.append_nil] at hsource
    obtain ⟨rfl, rfl⟩ := append_inj_of_size hsource hoffset
    exact ⟨rfl, _, hbefore⟩

theorem Path.skip_comment {body : List Char} (hbody : ¬ commentClose <:+: body) :
    Path d ⟨some .leftDelim, front, [], d.comment body ++ rest, m⟩
      [⟨.leftDelim, size front, d.left⟩] ⟨some .text, front ++ d.comment body, [], rest, m⟩ := by
  rw [Delimiters.comment, List.append_assoc d.left, ← List.append_assoc front]
  have hopen : commentOpen <+: commentOpen ++ body ++ commentClose ++ d.right ++ rest := by
    simp only [List.append_assoc]
    exact List.prefix_append _ _
  exact .token (.finish (.openComment hopen)) (.silent (.drop (.comment hbody)) .refl)

/-- A scan that comes to a left delimiter comes to any comment there, and skips it. -/
theorem Path.comment {ahead body : List Char}
    (h : Path standard (Place.start source) ts ⟨some .leftDelim, front, [], ahead, m⟩)
    (hbody : ¬ commentClose <:+: body) (rest : List Char) :
    Path standard (Place.start (front ++ standard.comment body ++ rest))
      (ts ++ [⟨.leftDelim, size front, standard.left⟩])
      ⟨some .text, front ++ standard.comment body, [], rest, m⟩ := by
  have hcome := h.before_start (standard.comment body ++ rest) rfl
    ((List.prefix_append _ _).trans (List.prefix_append _ _))
  rw [List.append_nil, ← List.append_assoc] at hcome
  exact hcome.trans (.skip_comment hbody)

theorem tokenize_comment {body body' : List Char} {before after : List Token}
    (hbody : ¬ commentClose <:+: body) (hbody' : ¬ commentClose <:+: body')
    (h : tokenize (front ++ standard.comment body ++ rest) = .ok (before ++ t :: after))
    (hkind : t.kind = .leftDelim) (hoffset : t.offset = size front) :
    ∃ after', tokenize (front ++ standard.comment body' ++ rest) = .ok (before ++ t :: after') ∧
      List.Forall₂ (Token.Moved (size body' - size body)) after after' := by
  have hsource := h
  rw [List.append_assoc] at hsource
  obtain ⟨rfl, m, hpath⟩ := exists_path_of_leftDelim hsource hkind hoffset
  have hne : ∀ cs, front ++ standard.comment cs ≠ [] := by
    intro cs
    exact List.append_ne_nil_of_right_ne_nil _ (List.append_ne_nil_of_left_ne_nil standard.left_ne _)
  rcases tokenize_behind (hne body) (hne body') (hpath.comment hbody rest)
    (hpath.comment hbody' rest) with ⟨us, vs, hok, hok', hmoved, -⟩ | ⟨hover, -⟩
  · rw [List.append_assoc before] at hok hok'
    have hafter := List.append_cancel_left (Except.ok.inj (h.symm.trans hok))
    obtain rfl : after = us := (List.cons.inj hafter).2
    refine ⟨vs, hok', ?_⟩
    have hdistance : (size (front ++ standard.comment body') : Int) -
        size (front ++ standard.comment body) = size body' - size body := by
      simp only [Delimiters.comment, size_append]
      omega
    rwa [hdistance] at hmoved
  · cases h.symm.trans hover

/-! ### Blanks -/

theorem blankAhead_append {run : List Char} (hne : run ≠ [])
    (hblank : ∀ c ∈ run, isInlineBlank c = true) (rest : List Char) : BlankAhead (run ++ rest) := by
  obtain ⟨c, run, rfl⟩ := List.exists_cons_of_ne_nil hne
  exact ⟨c, rfl, hblank c List.mem_cons_self⟩

/-- A scan that comes to a blank in the body of a directive comes to any blanks there, and skips
them all. -/
theorem Path.blanks {ahead run : List Char}
    (h : Path standard (Place.start source) ts ⟨some .insideDirective, front, [], ahead, m⟩)
    (hahead : BlankAhead ahead) (hne : run ≠ []) (hrun : LongestRun isInlineBlank run rest) :
    Path standard (Place.start (front ++ run ++ rest)) ts
      ⟨some .insideDirective, front ++ run, [], rest, m⟩ := by
  have hcome := h.before_start (run ++ rest) rfl
    (.inr ⟨hahead, blankAhead_append hne hrun.all rest⟩)
  rw [List.append_nil, ← List.append_assoc] at hcome
  have := hcome.trans (.single (.drop (.blanks hne hrun)))
  rwa [Option.toList_none, List.append_nil] at this

/-- A token, and the same token after all that stands at `cut` or behind it was moved by `distance`
bytes. -/
structure Token.MovedFrom (cut : Nat) (distance : Int) (t u : Token) : Prop where
  kind_eq : u.kind = t.kind
  text_eq : u.text = t.text
  before : t.offset < cut → u.offset = t.offset
  behind : cut ≤ t.offset → (u.offset : Int) = t.offset + distance

theorem Token.Moved.movedFrom {cut : Nat} {distance : Int} {us vs : List Token}
    (h : List.Forall₂ (Token.Moved distance) us vs) (hus : ∀ t ∈ us, cut ≤ t.offset) :
    List.Forall₂ (Token.MovedFrom cut distance) us vs := by
  induction h with
  | nil => exact .nil
  | cons ht _ ih =>
    obtain ⟨hle, hus⟩ := List.forall_mem_cons.mp hus
    refine .cons ⟨ht.kind_eq, ht.text_eq, fun hlt => ?_, fun _ => ht.offset_eq⟩ (ih hus)
    exact absurd hle (Nat.not_le_of_lt hlt)

theorem Token.movedFrom_self {cut : Nat} (distance : Int) (h : t.offset < cut) :
    t.MovedFrom cut distance t :=
  ⟨rfl, rfl, fun _ => rfl, fun hle => absurd hle (Nat.not_le_of_lt h)⟩

theorem tokenize_blanks {run run' : List Char} (hne : run ≠ [])
    (hblank : ∀ c ∈ run, isInlineBlank c = true) (hne' : run' ≠ [])
    (hblank' : ∀ c ∈ run', isInlineBlank c = true)
    (h : Path standard (Place.start (front ++ run ++ rest)) ts
      ⟨some .insideDirective, front, [], run ++ rest, m⟩) :
    (∃ us vs, tokenize (front ++ run ++ rest) = .ok us ∧
      tokenize (front ++ run' ++ rest) = .ok vs ∧
      List.Forall₂ (Token.MovedFrom (size front) (size run' - size run)) us vs) ∨
    (tokenize (front ++ run ++ rest) = .error .overflow ∧
      tokenize (front ++ run' ++ rest) = .error .overflow) := by
  have hahead := blankAhead_append hne hblank rest
  -- The blanks behind the run are skipped together with it.
  obtain ⟨more, rest, rfl, hmore⟩ := LongestRun.split isInlineBlank rest
  have hskip : ∀ cs, cs ≠ [] → (∀ c ∈ cs, isInlineBlank c = true) →
      front ++ (cs ++ more) ≠ [] ∧ Path standard (Place.start (front ++ (cs ++ more) ++ rest)) ts
        ⟨some .insideDirective, front ++ (cs ++ more), [], rest, m⟩ := by
    intro cs hcs hall
    have hcs' : cs ++ more ≠ [] := List.append_ne_nil_of_left_ne_nil hcs more
    have hlongest : LongestRun isInlineBlank (cs ++ more) rest :=
      ⟨List.forall_mem_append.mpr ⟨hall, hmore.all⟩, hmore.stops⟩
    exact ⟨List.append_ne_nil_of_right_ne_nil front hcs', h.blanks hahead hcs' hlongest⟩
  obtain ⟨hfront, hpath⟩ := hskip run hne hblank
  obtain ⟨hfront', hpath'⟩ := hskip run' hne' hblank'
  have hdistance : (size (front ++ (run' ++ more)) : Int) - size (front ++ (run ++ more)) =
      size run' - size run := by
    simp only [size_append]
    omega
  have hbehind := tokenize_behind hfront hfront' hpath hpath'
  rw [hdistance] at hbehind
  simp only [List.append_assoc] at hbehind ⊢
  rcases hbehind with ⟨us, vs, hok, hok', hmoved, hus⟩ | hover
  · refine .inl ⟨ts ++ us, ts ++ vs, hok, hok', List.rel_append ?_ ?_⟩
    · exact List.forall₂_same.mpr fun t ht =>
        Token.movedFrom_self _ (h.offset_lt (Option.some_ne_none _) t ht)
    · refine Token.Moved.movedFrom hmoved fun t ht => ?_
      have hle := hus t ht
      rw [size_append] at hle
      omega
  · exact .inr hover

/-- Between two steps, the state and the position of a lexer show where the scan stands. -/
theorem Lexer.Stepped.exists_path {name : String} {options : Options} {l : Lexer}
    (h : (ofSource name (front ++ rest) options).Stepped ts l) (hs : l.state = some s)
    (hheld : s.held = []) (hpos : l.cursor.pos = size front) :
    ∃ m, Path options.normalized (Place.start (front ++ rest)) ts
      ⟨some s, front, [], rest, m⟩ := by
  obtain ⟨⟨state, front', held, rest', m⟩, hrun, hstands⟩ := h.exists_run
  obtain rfl : state = some s := hstands.state_eq.symm.trans hs
  obtain rfl : held = [] := (hrun.ready.held_of_state rfl).trans hheld
  have hsource := hrun.source_eq
  have hsize := hstands.holds.between.pos_eq.symm.trans hpos
  simp only [List.append_nil] at hsource hsize
  obtain ⟨rfl, rfl⟩ := append_inj_of_size hsource hsize
  exact ⟨m, hrun.path⟩

/-! ### What is skipped has no influence -/

/-- Neither the body of a comment nor the blanks in the body of a directive have any influence on
the tokens, but for the place of those behind them. A comment is one that the scan comes to, which
is seen by its left delimiter; and blanks are those that the scan comes to in the body of a
directive. -/
theorem trivia_skipped :
    (∀ (front rest body body' : List Char) (before after : List Token) (t : Token),
      ¬ commentClose <:+: body → ¬ commentClose <:+: body' →
      tokenize (front ++ standard.comment body ++ rest) = .ok (before ++ t :: after) →
      t.kind = .leftDelim → t.offset = size front →
      ∃ after', tokenize (front ++ standard.comment body' ++ rest) = .ok (before ++ t :: after') ∧
        List.Forall₂ (Token.Moved (size body' - size body)) after after') ∧
    ∀ (front rest run run' : List Char) (before : List Token) (l : Lexer),
      run ≠ [] → (∀ c ∈ run, c = ' ' ∨ c = '\t') → run' ≠ [] → (∀ c ∈ run', c = ' ' ∨ c = '\t') →
      (Lexer.ofSource "<input>" (front ++ run ++ rest) .default).Stepped before l →
      l.state = some .insideDirective → l.cursor.pos = size front →
      (∃ ts us, tokenize (front ++ run ++ rest) = .ok ts ∧
        tokenize (front ++ run' ++ rest) = .ok us ∧
        List.Forall₂ (Token.MovedFrom (size front) (size run' - size run)) ts us) ∨
      (tokenize (front ++ run ++ rest) = .error .overflow ∧
        tokenize (front ++ run' ++ rest) = .error .overflow) := by
  refine ⟨?_, ?_⟩
  · intro front rest body body' before after t hbody hbody' htokens hkind hoffset
    exact tokenize_comment hbody hbody' htokens hkind hoffset
  · intro front rest run run' before l hne hblank hne' hblank' hstepped hstate hpos
    have hinline : ∀ {cs : List Char}, (∀ c ∈ cs, c = ' ' ∨ c = '\t') →
        ∀ c ∈ cs, isInlineBlank c = true := by
      intro cs h c hc
      simpa [isInlineBlank] using h c hc
    rw [List.append_assoc] at hstepped
    obtain ⟨m, hpath⟩ := hstepped.exists_path hstate rfl hpos
    rw [← List.append_assoc] at hpath
    exact tokenize_blanks hne (hinline hblank) hne' (hinline hblank') hpath

/-- A template that begins with a directive leads to the body of it. -/
theorem Run.body_of_head (dir : Directive) (hdir : dir.isExtends = false) (cs : List Char) :
    Run standard (standard.head dir ++ cs)
      [⟨.directive dir, 0, standard.marker ++ dir.spelling.toList⟩,
        ⟨.openDirective, size (standard.marker ++ dir.spelling.toList), ['(']⟩]
      ⟨some .insideDirective, standard.head dir, [], cs, ⟨0, false⟩⟩ := by
  have hleft : ¬ standard.left <+: standard.head dir ++ cs := by
    intro hleft
    exact absurd (List.cons_prefix_cons.mp hleft).1 (by decide)
  have hname : Rule standard [] (.directive dir (size dir.spelling.toList)) ⟨0, false⟩
      (standard.marker ++ dir.spelling.toList) ('(' :: cs)
      (.finish (.directive dir) (some (.openDirective dir.isExtends))) ⟨0, dir.isExtends⟩ :=
    .directive fun _ => ⟨rfl, rfl⟩
  have hopen : Rule standard (standard.marker ++ dir.spelling.toList) (.openDirective false)
      ⟨0, false⟩ ['('] cs (.finish .openDirective (some .insideDirective)) ⟨0, false⟩ :=
    .openDirective
  rw [hdir] at hname
  have hopener : Step standard (Place.start (standard.head dir ++ cs)) none
      ⟨some (.directive dir (size dir.spelling.toList)), [], [], standard.head dir ++ cs,
        ⟨0, false⟩⟩ := .hold (.opener (.directive hleft))
  have hhead : standard.head dir ++ cs = standard.marker ++ dir.spelling.toList ++ '(' :: cs :=
    List.append_assoc _ ['('] cs
  refine Path.run (.silent hopener ?_)
  rw [hhead]
  exact .token (.finish hname) (.token (.finish hopen) .refl)

/-- A comment that looks like an extends directive, before an action that is not closed; and a tab
before the name of an import. -/
theorem trivia_skipped_import :
    (∃ after', tokenize (['a'] ++ standard.comment "@extends(\"".toList ++ "é\x7b\x7b".toList) =
        .ok ([⟨.text, 0, ['a']⟩] ++ ⟨.leftDelim, 1, "\x7b\x7b".toList⟩ :: after') ∧
      List.Forall₂ (Token.Moved (size "@extends(\"".toList - size []))
        [⟨.text, 9, ['é']⟩, ⟨.leftDelim, 11, "\x7b\x7b".toList⟩, ⟨.error .unclosedAction, 13, []⟩]
        after') ∧
    ((∃ ts us, tokenize (standard.head .import_ ++ [' '] ++ ['a', ')']) = .ok ts ∧
        tokenize (standard.head .import_ ++ [' ', '\t'] ++ ['a', ')']) = .ok us ∧
        List.Forall₂ (Token.MovedFrom (size (standard.head .import_))
          (size [' ', '\t'] - size [' '])) ts us) ∨
      (tokenize (standard.head .import_ ++ [' '] ++ ['a', ')']) = .error .overflow ∧
        tokenize (standard.head .import_ ++ [' ', '\t'] ++ ['a', ')']) = .error .overflow)) := by
  refine ⟨?_, ?_⟩
  · apply trivia_skipped.1 ['a'] "é\x7b\x7b".toList []
    · decide
    · decide +kernel
    · decide +kernel
    · rfl
    · rfl
  · have hrun := Run.body_of_head .import_ rfl ([' '] ++ ['a', ')'])
    rw [← List.append_assoc (standard.head .import_) [' '] ['a', ')']] at hrun
    obtain ⟨l, hstepped, hstands⟩ := Lexer.exists_stepped "<input>" hrun
    have hpos := hstands.holds.between.pos_eq
    rw [List.append_nil (standard.head .import_)] at hpos
    exact trivia_skipped.2 (standard.head .import_) ['a', ')'] [' '] [' ', '\t'] _ l (by simp)
      (by simp) (by simp) (by simp) hstepped hstands.state_eq hpos

end TemplateLexer
