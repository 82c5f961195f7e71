import TemplateLexer.Proofs.Grammar

/-!
# Tokens tile the template

The tokens of a stream lie one behind the other in the template, each exactly over its text. Between
two of them there may be a gap, and there are two sorts of gaps: the comment behind a left
delimiter, and the blanks behind a token in the body of a directive. `Tiled` lays the tokens out
from the start, and along every run what is behind is laid out in this way, but for one gap at most
(`Run.laid`).
-/

namespace TemplateLexer

open Text
open Lexer (commentOpen commentClose)

/-- The last of `kinds` opens the body of a directive other than an extends directive, or is a part
of such a body. -/
def InBody (kinds : List TokenKind) : Prop :=
  ∃ before dir body, kinds = before ++ .directive dir :: .openDirective :: body ∧
    dir.isExtends = false ∧ ∀ k ∈ body, k.isBodyPart = true

/-- What may lie behind the last of `kinds` and before the next token. -/
inductive Gap (d : Delimiters) (kinds : List TokenKind) : List Char → Prop
  | none : Gap d kinds []
  | comment {body : List Char} : kinds.getLast? = some .leftDelim → ¬ commentClose <:+: body →
      Gap d kinds (commentOpen ++ body ++ commentClose ++ d.right)
  | blanks {run : List Char} : InBody kinds → run ≠ [] → (∀ c ∈ run, c = ' ' ∨ c = '\t') →
      Gap d kinds run

/-- Tokens and the gaps between them, laid out from the start over `covered`. -/
inductive Tiled (d : Delimiters) : List Token → List Char → Prop
  | nil : Tiled d [] []
  | concat {ts : List Token} {t : Token} {covered gap : List Char} : Tiled d ts covered →
      Gap d (ts.map Token.kind) gap → t.offset = size (covered ++ gap) →
      Tiled d (ts ++ [t]) (covered ++ gap ++ t.text)

variable {d : Delimiters} {source : List Char} {ts : List Token} {p p' : Place} {t : Token}
  {slot : Option Token}

/-! ### Runs lay out tokens -/

/-- What is behind is laid out, but for a gap. A place where more could be dropped has none. -/
structure Laid (d : Delimiters) (ts : List Token) (p : Place) (covered gap : List Char) : Prop where
  tiled : Tiled d ts covered
  front_eq : p.front = covered ++ gap
  allowed : Gap d (ts.map Token.kind) gap
  comment : p.state = some .comment → gap = []
  blanks : p.state = some .insideDirective → gap = [] ∨ ∀ c ∈ p.rest.head?, isInlineBlank c = false

theorem Parsed.getLast?_comment {kinds : List TokenKind} {n : Nat}
    (h : Parsed kinds (some .comment) n) : kinds.getLast? = some .leftDelim := by
  cases h with
  | going _ _ hbegun =>
    cases hbegun
    simp

theorem Parsed.inBody {kinds : List TokenKind} {n : Nat}
    (h : Parsed kinds (some .insideDirective) n) : InBody kinds := by
  cases h with
  | going _ _ hbegun =>
    cases hbegun with
    | insideDirective hdir hbody => exact ⟨_, _, _, rfl, hdir, hbody⟩

theorem Rule.next_of_hold {front taken rest : List Char} {s next : State} {m m' : Memory}
    (h : Rule d front s m taken rest (.hold next) m') :
    next ≠ .comment ∧ next ≠ .insideDirective := by
  cases h with
  | opener hcalls => cases hcalls <;> simp
  | _ => simp

theorem Laid.finish {covered gap : List Char} (h : Laid d ts p covered gap)
    (hstep : Step d p (some t) p') : Laid d (ts ++ [t]) p' (covered ++ gap ++ t.text) [] := by
  cases hstep with
  | finish hr =>
    refine ⟨.concat h.tiled h.allowed ?_, ?_, .none, fun _ => rfl, fun _ => .inl rfl⟩
    · rw [← h.front_eq]
    · have hfront := h.front_eq
      simp only at hfront
      rw [hfront, List.append_nil]

/-- The characters that a silent step drops are a gap: they follow a token, and nothing was dropped
before them. -/
theorem Laid.silent {covered gap : List Char} (h : Laid d ts p covered gap)
    (hrun : Run d source ts p) (hstep : Step d p none p') : ∃ gap', Laid d ts p' covered gap' := by
  have hparsed := hrun.parsed
  have hheld := hrun.ready.held_eq
  cases hstep with
  | hold hr =>
    have hnext := hr.next_of_hold
    refine ⟨gap, h.tiled, h.front_eq, h.allowed, ?_, ?_⟩
    · intro hstate
      exact absurd (Option.some.inj hstate) hnext.1
    · intro hstate
      exact absurd (Option.some.inj hstate) hnext.2
  | @drop _ _ _ _ run _ _ _ hr =>
    cases hr with
    | comment hbody =>
      -- A comment begins right behind its delimiter.
      cases h.comment rfl
      cases hheld
      refine ⟨_, h.tiled, ?_, .comment hparsed.getLast?_comment hbody, by simp, by simp⟩
      have hfront := h.front_eq
      simp only [List.append_nil] at hfront
      rw [hfront]
      rfl
    | blanks hne hlongest =>
      -- Blanks that were dropped before would have been dropped with these.
      have hgap : gap = [] := by
        obtain ⟨c, run, rfl⟩ := List.exists_cons_of_ne_nil hne
        rcases h.blanks rfl with hgap | hhead
        · exact hgap
        · exact absurd (hhead c rfl) (by simp [hlongest.all c (by simp)])
      cases hgap
      cases hheld
      have hblanks : ∀ c ∈ run, c = ' ' ∨ c = '\t' := by
        intro c hc
        simpa [isInlineBlank] using hlongest.all c hc
      refine ⟨run, h.tiled, ?_, .blanks hparsed.inBody hne hblanks, by simp, ?_⟩
      · have hfront := h.front_eq
        simp only [List.append_nil] at hfront
        rw [hfront]
        rfl
      · intro _
        exact .inr hlongest.stops

theorem Run.laid (h : Run d source ts p) : ∃ covered gap, Laid d ts p covered gap := by
  induction h with
  | start => exact ⟨[], [], .nil, rfl, .none, by simp [Place.start], by simp [Place.start]⟩
  | @step ts p p' slot hrun hs ih =>
    obtain ⟨covered, gap, hlaid⟩ := ih
    cases slot with
    | none =>
      obtain ⟨gap', hlaid'⟩ := hlaid.silent hrun hs
      rw [Option.toList_none, List.append_nil]
      exact ⟨covered, gap', hlaid'⟩
    | some t => exact ⟨_, _, hlaid.finish hs⟩

/-! ### Reading off a layout -/

theorem Gap.eq_nil {gap : List Char} (h : Gap d [] gap) : gap = [] := by
  cases h with
  | none => rfl
  | comment hlast => cases hlast
  | blanks hbody =>
    obtain ⟨before, dir, body, hkinds, -⟩ := hbody
    simp at hkinds

theorem Tiled.of_concat {covered : List Char} (h : Tiled d (ts ++ [t]) covered) :
    ∃ front gap, Tiled d ts front ∧ Gap d (ts.map Token.kind) gap ∧
      t.offset = size (front ++ gap) ∧ covered = front ++ gap ++ t.text := by
  generalize hts : ts ++ [t] = us at h
  cases h with
  | nil => simp at hts
  | concat htiled hgap hoffset =>
    obtain ⟨rfl, ht⟩ := List.append_inj' hts rfl
    cases ht
    exact ⟨_, _, htiled, hgap, hoffset, rfl⟩

theorem Tiled.stop_eq {covered : List Char} (h : Tiled d (ts ++ [t]) covered) :
    t.stop = size covered := by
  obtain ⟨front, gap, -, -, hoffset, rfl⟩ := h.of_concat
  rw [size_append, ← hoffset]
  rfl

/-- A layout of a stream is one of each of its beginnings. -/
theorem Tiled.of_append {us : List Token} {covered : List Char} (h : Tiled d (ts ++ us) covered) :
    ∃ front, Tiled d ts front ∧ front <+: covered := by
  generalize hn : us.length = n
  induction n generalizing us covered with
  | zero =>
    cases List.length_eq_zero_iff.mp hn
    rw [List.append_nil] at h
    exact ⟨covered, h, List.prefix_refl _⟩
  | succ n ih =>
    have hne : us ≠ [] := List.ne_nil_of_length_eq_add_one hn
    obtain ⟨us, u, rfl⟩ := (List.eq_nil_or_concat us).resolve_left hne
    rw [List.concat_eq_append, ← List.append_assoc] at h
    obtain ⟨front, gap, htiled, -, -, rfl⟩ := h.of_concat
    obtain ⟨front', htiled', hpre⟩ := ih htiled (by simpa using hn)
    rw [List.append_assoc]
    exact ⟨front', htiled', hpre.trans (List.prefix_append _ _)⟩

/-- The gap before a token and its text, as they lie in a template that begins with the layout. -/
theorem Tiled.exists_slices {covered : List Char} (h : Tiled d (ts ++ [t]) covered)
    (hsource : covered <+: source) :
    ∃ front gap, Tiled d ts front ∧ Gap d (ts.map Token.kind) gap ∧
      size front ≤ t.offset ∧ slice? source (size front) t.offset = some gap ∧
      slice? source t.offset t.stop = some t.text := by
  have hstop := h.stop_eq
  obtain ⟨front, gap, htiled, hgap, hoffset, rfl⟩ := h.of_concat
  refine ⟨front, gap, htiled, hgap, ?_, ?_, ?_⟩
  · rw [hoffset, size_append]
    exact Nat.le_add_right _ _
  · rw [hoffset]
    exact slice?_of_prefix ((List.prefix_append _ _).trans hsource)
  · rw [hstop, hoffset]
    exact slice?_of_prefix hsource

/-- What lies between `pos` and the first token, the text of this token, what lies behind it, and so
on. -/
def woven (source : List Char) : Nat → List Token → List Char
  | _, [] => []
  | pos, t :: ts => (slice? source pos t.offset).getD [] ++ t.text ++ woven source t.stop ts

theorem woven_concat (source : List Char) (pos : Nat) (ts : List Token) (t : Token) :
    woven source pos (ts ++ [t]) = woven source pos ts ++
      ((slice? source ((ts.getLast?.map Token.stop).getD pos) t.offset).getD [] ++ t.text) := by
  induction ts generalizing pos with
  | nil => simp [woven]
  | cons u ts ih =>
    have hlast : ((u :: ts).getLast?.map Token.stop).getD pos =
        (ts.getLast?.map Token.stop).getD u.stop := by
      rw [List.getLast?_cons]
      cases ts.getLast? <;> rfl
    rw [List.cons_append, woven, woven, ih, hlast, List.append_assoc, List.append_assoc,
      List.append_assoc]

theorem Tiled.getLast?_stop {covered : List Char} (h : Tiled d ts covered) :
    (ts.getLast?.map Token.stop).getD 0 = size covered := by
  rcases List.eq_nil_or_concat ts with rfl | ⟨us, u, rfl⟩
  · generalize hts : [] = vs at h
    cases h with
    | nil => rfl
    | concat => simp at hts
  · rw [List.concat_eq_append] at h ⊢
    rw [List.getLast?_concat, Option.map_some, Option.getD_some, h.stop_eq]

/-- The texts of the tokens and the gaps between them, put together, are the layout. -/
theorem Tiled.woven_eq {covered : List Char} (h : Tiled d ts covered) (hsource : covered <+: source) :
    woven source 0 ts = covered := by
  induction h with
  | nil => rfl
  | @concat ts t front gap htiled hgap hoffset ih =>
    have hgap' : front ++ gap <+: source := (List.prefix_append _ _).trans hsource
    have hslice : slice? source (size front) t.offset = some gap := by
      rw [hoffset]
      exact slice?_of_prefix hgap'
    rw [woven_concat, htiled.getLast?_stop, hslice, ih ((List.prefix_append _ _).trans hgap'),
      Option.getD_some, ← List.append_assoc]

/-! ### The end -/

theorem Rule.of_eof {front taken rest : List Char} {s : State} {m m' : Memory} {kind : TokenKind}
    {next : Option State} (h : Rule d front s m taken rest (.finish kind next) m')
    (hk : kind = .eof) : s = .eof ∧ taken = [] ∧ rest = [] := by
  cases h with
  | eof => exact ⟨rfl, rfl, rfl⟩
  | run _ _ hruns =>
    subst hk
    cases hruns
  | word =>
    rcases wordKind_cases taken with hw | ⟨k, hw, -⟩
    · cases hw.symm.trans hk
    · cases hw.symm.trans hk
  | _ => cases hk

/-- The token for the end stands at the end and is empty. -/
theorem Run.offset_of_eof (h : Run d source ts p) (ht : t ∈ ts) (hk : t.kind = .eof) :
    t.offset = size source ∧ t.text = [] := by
  obtain ⟨us, p₀, p₁, hrun, hstep⟩ := h.exists_step_of_mem ht
  have hsource := hrun.source_eq
  have hheld := hrun.ready.held_eq
  cases hstep with
  | finish hr =>
    obtain ⟨rfl, rfl, rfl⟩ := hr.of_eof hk
    cases hheld
    simp only [List.append_nil] at hsource
    rw [← hsource]
    exact ⟨rfl, rfl⟩

/-! ### Tokens and gaps make up the template -/

/-- The tokens lie in the template one behind the other, each over its text, and between them there
is nothing but gaps. -/
structure Tiles (d : Delimiters) (source : List Char) (ts : List Token) : Prop where
  first : ∃ t, ts.head? = some t ∧ t.offset = 0
  slices : ∀ t ∈ ts, slice? source t.offset t.stop = some t.text ∧
    isBoundary source t.offset = true ∧ isBoundary source t.stop = true ∧ t.stop ≤ size source
  gaps : ∀ before t u after, ts = before ++ t :: u :: after → t.stop ≤ u.offset ∧
    ∃ gap, slice? source t.stop u.offset = some gap ∧
      Gap d ((before ++ [t]).map Token.kind) gap
  last : ∀ t, ts.getLast? = some t → t.kind = .eof →
    t.offset = size source ∧ woven source 0 ts = source

theorem isBoundary_of_slice? {mid : List Char} {start stop : Nat}
    (h : slice? source start stop = some mid) :
    isBoundary source start = true ∧ isBoundary source stop = true := by
  obtain ⟨front, rest, rfl, rfl, rfl⟩ := slice?_eq_some_iff.mp h
  refine ⟨?_, isBoundary_append _ _⟩
  rw [List.append_assoc]
  exact isBoundary_append _ _

theorem Tiled.tiles {covered : List Char} (h : Tiled d ts covered) (hsource : covered <+: source)
    (hne : ts ≠ []) (heof : ∀ t ∈ ts, t.kind = .eof → t.offset = size source ∧ t.text = []) :
    Tiles d source ts where
  first := by
    obtain ⟨t, us, rfl⟩ := List.exists_cons_of_ne_nil hne
    have hfirst : Tiled d ([] ++ [t] ++ us) covered := h
    obtain ⟨front, htiled, -⟩ := hfirst.of_append
    obtain ⟨front, gap, htiled, hgap, hoffset, -⟩ := htiled.of_concat
    refine ⟨t, rfl, ?_⟩
    have hzero : size front = 0 := htiled.getLast?_stop.symm
    rw [hoffset, hgap.eq_nil, List.append_nil, hzero]
  slices := by
    intro t ht
    obtain ⟨before, after, rfl⟩ := List.append_of_mem ht
    rw [List.append_cons] at h
    obtain ⟨front, htiled, hpre⟩ := h.of_append
    obtain ⟨-, -, -, -, -, -, hslice⟩ := htiled.exists_slices (hpre.trans hsource)
    obtain ⟨hstart, hstop⟩ := isBoundary_of_slice? hslice
    exact ⟨hslice, hstart, hstop, le_size_of_isBoundary hstop⟩
  gaps := by
    rintro before t u after rfl
    rw [List.append_cons, List.append_cons] at h
    obtain ⟨front, htiled, hpre⟩ := h.of_append
    obtain ⟨front', gap, htiled', hgap, hle, hslice, -⟩ :=
      htiled.exists_slices (hpre.trans hsource)
    rw [htiled'.stop_eq]
    exact ⟨hle, gap, hslice, hgap⟩
  last := by
    intro t ht hk
    have hmem := List.mem_of_getLast? ht
    obtain ⟨hoffset, htext⟩ := heof t hmem hk
    refine ⟨hoffset, ?_⟩
    rw [h.woven_eq hsource]
    -- The layout reaches as far as its last token, which is the whole template.
    obtain ⟨rest, rfl⟩ := hsource
    have hsize := h.getLast?_stop
    rw [ht, Option.map_some, Option.getD_some, Token.stop, hoffset, htext, size_nil,
      size_append] at hsize
    have hrest : size rest = 0 := by omega
    cases rest with
    | nil => rw [List.append_nil]
    | cons c rest => exact absurd (size_pos_of_ne_nil (List.cons_ne_nil c rest)) (by omega)

/-- All tokens of a template tile it, unless more parentheses are open than can be counted; and
after each pull, the lexer stands at the end of the token that it gave. -/
theorem Lexer.tokens_tile (name : String) (source : List Char) (options : Options) :
    ((∃ ts, (ofSource name source options).tokens = .ok ts ∧
        Tiles options.normalized source ts) ∨
      ((ofSource name source options).tokens = .error .overflow ∧ 2 ^ 32 ≤ source.count '(')) ∧
    ∀ ts l t l', (ofSource name source options).Pulled ts l → l.pull = .ok (some t, l') →
      l'.cursor.pos = t.stop ∧ l'.start = t.stop := by
  constructor
  · rcases tokens_ofSource name source options with ⟨ts, p, htokens, hrun, hend⟩ | hover
    · obtain ⟨covered, gap, hlaid⟩ := hrun.laid
      have hpre : covered <+: source := by
        rw [← hrun.source_eq, hlaid.front_eq]
        simp only [List.append_assoc]
        exact List.prefix_append _ _
      have htiles := hlaid.tiled.tiles hpre (hrun.ne_nil hend) fun t => hrun.offset_of_eof
      exact .inl ⟨ts, htokens, htiles⟩
    · exact .inr hover
  · intro ts l t l' hpulled hpull
    obtain ⟨p, hrun, hstands, -, -⟩ := hpulled.exists_run
    have hout := pull_outcome hrun hstands (hstands.state_ne_none hpull)
    rw [hpull] at hout
    cases hout with
    | @token _ p' _ _ hrun hstep hstands =>
      obtain ⟨hheld, -, hstop⟩ := hstep.stop_eq
      refine ⟨?_, hstands.holds.start_eq.trans hstop.symm⟩
      rw [hstands.holds.between.pos_eq, hheld, List.append_nil, hstop]

end TemplateLexer
