import Mathlib.Data.List.Forall2
import TemplateLexer.Proofs.Paths

/-!
# What a step depends on

A step looks a little ahead of what it takes, and hardly back at all. Both are made precise here, so
that a path through one template can be carried over to another.

* Ahead: under the standard marker and delimiters, no rule that goes on looks further than two
  characters beyond what it takes. `State.Alike` says, for the state that follows, when two texts
  look the same. A rule that goes on before one of them does so before the other (`Rule.before`),
  and what it takes makes them look the same to the state before (`Rule.alike`); so a whole path can
  be changed beyond its end (`Path.before`).
* Behind: only an extends directive asks what is behind it, and only whether it is the first thing
  in the template and the first of its sort. Any other path can be moved behind another text, and
  its tokens move with it (`Path.moved`).
-/

namespace TemplateLexer

open Text
open Lexer (commentOpen commentClose)

/-- The marker and delimiters of a template for which nothing else was chosen. -/
abbrev Delimiters.standard : Delimiters := Options.default.normalized

open Delimiters (standard)

/-! ### Texts that begin alike -/

section Take

variable {xs ys ys' : List Char}

theorem head?_eq_of_take (h : ys'.take 2 = ys.take 2) : ys'.head? = ys.head? := by
  have := congrArg List.head? h
  simpa [List.head?_take] using this

theorem take_append_of_take (xs : List Char) (h : ys'.take 2 = ys.take 2) :
    (xs ++ ys').take 2 = (xs ++ ys).take 2 := by
  have hle : min (2 - xs.length) 2 = 2 - xs.length := by omega
  have hrest := congrArg (List.take (2 - xs.length)) h
  rw [List.take_take, List.take_take, hle] at hrest
  rw [List.take_append, List.take_append, hrest]

/-- Two characters are seen in the first two. -/
theorem prefix_iff_of_take (hlen : xs.length ≤ 2) (h : ys'.take 2 = ys.take 2) :
    xs <+: ys' ↔ xs <+: ys := by
  have htake : ∀ zs : List Char, xs <+: zs.take 2 ↔ xs <+: zs := by
    intro zs
    rw [List.prefix_take_iff, and_iff_left hlen]
  rw [← htake, h, htake]

theorem not_prefix_of_take (hlen : xs.length ≤ 2) (h : ys'.take 2 = ys.take 2)
    (hno : ¬ xs <+: ys) : ¬ xs <+: ys' := by
  rwa [prefix_iff_of_take hlen h]

/-- The first two characters are those of a text that is not empty and the first one behind it. -/
theorem take_append_of_head? (hne : xs ≠ []) (h : ys'.head? = ys.head?) :
    (xs ++ ys').take 2 = (xs ++ ys).take 2 := by
  obtain ⟨x, xs, rfl⟩ := List.exists_cons_of_ne_nil hne
  cases xs with
  | nil => cases ys <;> cases ys' <;> simp_all
  | cons y xs => rfl

theorem head?_append_eq (hne : xs ≠ []) : (xs ++ ys').head? = (xs ++ ys).head? := by
  rw [List.head?_append_of_ne_nil _ hne, List.head?_append_of_ne_nil _ hne]

end Take

theorem LongestRun.of_head? {p : Char → Bool} {run rest rest' : List Char}
    (h : LongestRun p run rest) (heq : rest'.head? = rest.head?) : LongestRun p run rest' :=
  ⟨h.all, by rw [heq]; exact h.stops⟩

/-! ### Literal text -/

/-- An opener begins with a brace or with the marker. -/
theorem head?_of_opens {cs : List Char} (h : standard.Opens cs) :
    cs.head? = some '\x7b' ∨ cs.head? = some '@' := by
  rcases h with ⟨rest, rfl⟩ | ⟨dir, rest, rfl⟩
  · exact .inl rfl
  · exact .inr rfl

/-- Behind its first character, the head of a directive has no character with which an opener
begins. -/
theorem not_opens_of_suffix_head {dir : Directive} {run w rest : List Char} (hrun : run ≠ [])
    (hw : w ≠ []) (h : standard.head dir = run ++ w) : ¬ standard.Opens (w ++ rest) := by
  intro hopens
  obtain ⟨c, run, rfl⟩ := List.exists_cons_of_ne_nil hrun
  obtain ⟨x, w, rfl⟩ := List.exists_cons_of_ne_nil hw
  have hmem : x ∈ dir.spelling.toList ++ ['('] := by
    have htail : dir.spelling.toList ++ ['('] = run ++ x :: w := (List.cons.inj h).2
    rw [htail]
    simp
  have hx : x = '\x7b' ∨ x = '@' := by simpa using head?_of_opens hopens
  have hword : isWordChar x = true ∨ x = '(' := by
    rcases List.mem_append.mp hmem with hx | hx
    · exact .inl (dir.isWordChar_of_mem_spelling x hx)
    · exact .inr (List.mem_singleton.mp hx)
  rcases hx with rfl | rfl
  · exact absurd hword (by decide)
  · exact absurd hword (by decide)

/-- The head of a directive does not reach into an opener behind it. -/
theorem head_prefix_iff {dir : Directive} {run rest : List Char} (hrun : run ≠ [])
    (hrest : rest = [] ∨ standard.Opens rest) :
    standard.head dir <+: run ++ rest ↔ standard.head dir <+: run := by
  constructor
  · rintro ⟨tail, htail⟩
    rcases List.append_eq_append_iff.mp htail with ⟨mid, rfl, -⟩ | ⟨w, hw, rfl⟩
    · exact List.prefix_append _ _
    · cases w with
      | nil => exact ⟨[], (List.append_nil _).trans (hw.trans (List.append_nil run))⟩
      | cons x w =>
        rcases hrest with hnil | hopens
        · cases hnil
        · exact absurd hopens (not_opens_of_suffix_head hrun (List.cons_ne_nil x w) hw)
  · intro h
    exact h.trans (List.prefix_append _ _)

/-- Whether an opener stands before the last character of a text is decided by this text and the
first character behind it. -/
theorem opens_append_iff {run rest rest' : List Char} (hrun : run ≠ [])
    (hrest : rest = [] ∨ standard.Opens rest) (hrest' : rest' = [] ∨ standard.Opens rest')
    (hhead : rest'.head? = rest.head?) :
    standard.Opens (run ++ rest') ↔ standard.Opens (run ++ rest) := by
  have hleft : standard.left <+: run ++ rest' ↔ standard.left <+: run ++ rest :=
    prefix_iff_of_take (by decide) (take_append_of_head? hrun hhead)
  have hdir : ∀ dir, standard.head dir <+: run ++ rest' ↔ standard.head dir <+: run ++ rest := by
    intro dir
    rw [head_prefix_iff hrun hrest', head_prefix_iff hrun hrest]
  rw [Delimiters.Opens, Delimiters.Opens, hleft]
  simp only [hdir]

theorem Delimiters.Plain.before {run rest rest' : List Char} (h : standard.Plain run rest)
    (hrest' : rest' = [] ∨ standard.Opens rest') (hhead : rest'.head? = rest.head?) :
    standard.Plain run rest' := by
  induction h with
  | stop => exact .stop hrest'
  | @marker run rest hno hplain ih =>
    refine .marker ?_ (ih hhead)
    have hne : standard.marker ++ run ≠ [] := List.cons_ne_nil '@' run
    have hiff := opens_append_iff hne hplain.stops hrest' hhead
    rw [List.append_assoc, List.append_assoc] at hiff
    rwa [hiff]
  | @char c run rest hno hmarker hplain ih =>
    refine .char ?_ ?_ (ih hhead)
    · have hiff := opens_append_iff (List.cons_ne_nil c run) hplain.stops hrest' hhead
      rw [List.cons_append, List.cons_append] at hiff
      rwa [hiff]
    · -- The marker is one character.
      intro hpre
      apply hmarker
      obtain ⟨rfl, -⟩ := List.cons_prefix_cons.mp hpre
      exact List.cons_prefix_cons.mpr ⟨rfl, List.nil_prefix⟩

/-! ### What a state sees -/

/-- A text begins with a blank. -/
def BlankAhead (cs : List Char) : Prop := ∃ c ∈ cs.head?, isInlineBlank c = true

/-- To a rule that goes on in a state before `rest`, the text `rest'` looks the same. -/
def State.Alike (rest rest' : List Char) : State → Prop
  | .leftDelim => standard.left <+: rest'
  | .directive dir _ => standard.head dir <+: rest'
  | .comment => commentOpen <+: rest'
  | .eof => rest' = []
  | .action | .identifier .action | .quote .action => rest'.take 2 = rest.take 2
  | .insideDirective => rest'.head? = rest.head? ∨ BlankAhead rest ∧ BlankAhead rest'
  | .openDirective _ | .closeDirective | .identifier _ => rest'.head? = rest.head?
  | .text | .extendsParam | .quote _ => True

/-- The state in which an effect goes on. -/
def Effect.next : Effect → Option State
  | .finish _ next => next
  | .drop next => some next
  | .hold next => some next

variable {front front' taken rest rest' : List Char} {s next : State} {m m' : Memory} {e : Effect}

theorem Delimiters.Calls.before {cs cs' : List Char} (h : standard.Calls cs s)
    (ha : s.Alike cs cs') : standard.Calls cs' s ∧ cs'.head? = cs.head? := by
  cases h with
  | delimiter hl =>
    obtain ⟨tail, rfl⟩ := hl
    obtain ⟨tail', rfl⟩ := ha
    exact ⟨.delimiter (List.prefix_append _ _), rfl⟩
  | directive =>
    obtain ⟨tail', rfl⟩ := ha
    exact ⟨.directive fun hl => absurd (List.cons_prefix_cons.mp hl).1 (by decide), rfl⟩
  | eof =>
    obtain rfl := ha
    exact ⟨.eof, rfl⟩

theorem Resume.head?_or_blank {resume : Resume} (h : resume.state.Alike rest rest') :
    rest'.head? = rest.head? ∨ BlankAhead rest' := by
  cases resume with
  | action => exact .inl (head?_eq_of_take h)
  | insideDirective => exact h.imp_right And.right
  | closeDirective => exact .inl h

/-- No word goes on with a blank. -/
theorem LongestRun.of_blank {run : List Char} (h : LongestRun isWordChar run rest)
    (hblank : BlankAhead rest') : LongestRun isWordChar run rest' where
  all := h.all
  stops := by
    obtain ⟨c, hc, hb⟩ := hblank
    intro x hx
    cases Option.mem_unique hx hc
    simp only [isInlineBlank, Bool.or_eq_true, beq_iff_eq] at hb
    rcases hb with rfl | rfl <;> decide

theorem LineEnd.before {eol : List Char} (h : LineEnd eol rest)
    (hrest' : rest'.head? = rest.head? ∨ BlankAhead rest') : LineEnd eol rest' := by
  cases h with
  | feed => exact .feed
  | both => exact .both
  | ret hfeed =>
    refine .ret ?_
    rcases hrest' with heq | ⟨c, hc, hb⟩
    · rwa [heq]
    · intro hnl
      cases Option.mem_unique hc hnl
      exact absurd hb (by decide)

/-- Where a state goes on with what a rule takes, it sees this first. -/
theorem Rule.alike (h : Rule standard front s m taken rest e m') (hnext : e.next = some next)
    (ha : next.Alike rest rest') : s.Alike (taken ++ rest) (taken ++ rest') := by
  cases h with
  | text | opener | extendsQuote => trivial
  | openComment | openAction => exact List.prefix_append _ _
  | comment =>
    show commentOpen <+: commentOpen ++ _ ++ _ ++ _ ++ _
    simp only [List.append_assoc]
    exact List.prefix_append _ _
  | closeAction => rfl
  | run | colonEquals | leftParen | rightParen | actionQuote =>
    cases hnext
    exact take_append_of_take _ ha
  | actionWord =>
    cases hnext
    exact ha
  | @directive _ dir rest =>
    cases hnext
    obtain ⟨tail, rfl⟩ := List.head?_eq_some_iff.mp ha
    show standard.head dir <+: _
    simp [Delimiters.head]
  | openDirective | closeExtends => rfl
  | blanks hne => exact .inl (head?_append_eq hne)
  | bodyQuote | closeDirective => exact .inl rfl
  | bodyWord =>
    cases hnext
    exact .inl ha
  | lineEnd heol => cases heol <;> exact .inl rfl
  | @word _ resume _ _ hne =>
    cases hnext
    cases resume with
    | action => exact take_append_of_take _ ha
    | insideDirective | closeDirective => exact head?_append_eq hne
  | @string _ resume =>
    cases hnext
    cases resume with
    | action => exact take_append_of_take _ ha
    | insideDirective | closeDirective => trivial
  | _ => cases hnext

/-- A rule that goes on before one text goes on before every text that looks the same. -/
theorem Rule.before (h : Rule standard front s m taken rest e m') (hnext : e.next = some next)
    (ha : next.Alike rest rest') (hfront : front = [] → front' = []) :
    Rule standard front' s m taken rest' e m' := by
  -- What the rule takes and the first two characters behind it decide about a right delimiter.
  have hright : ∀ xs, rest'.take 2 = rest.take 2 →
      ¬ standard.right <+: xs ++ rest → ¬ standard.right <+: xs ++ rest' := by
    intro xs htake
    exact not_prefix_of_take (by decide) (take_append_of_take xs htake)
  cases h with
  | text hrun hplain hcalls =>
    cases hnext
    obtain ⟨hcalls', hhead⟩ := hcalls.before ha
    exact .text hrun (hplain.before hcalls'.stops hhead) hcalls'
  | opener hcalls =>
    cases hnext
    exact .opener (hcalls.before ha).1
  | openComment =>
    cases hnext
    exact .openComment ha
  | openAction hopen =>
    cases hnext
    exact .openAction (not_prefix_of_take (by decide) ha hopen)
  | comment hbody => exact .comment hbody
  | closeAction hdepth => exact .closeAction hdepth
  | @run _ c run rest start kind p hno hstart hruns hrun =>
    cases hnext
    have hhead := head?_eq_of_take (take_append_of_take run ha)
    exact .run (hright (c :: run) ha hno) (by rw [hhead]; exact hstart) hruns
      (hrun.of_head? (head?_eq_of_take ha))
  | colonEquals hno =>
    cases hnext
    exact .colonEquals (hright [':', '='] ha hno)
  | leftParen hno hdepth =>
    cases hnext
    exact .leftParen (hright ['('] ha hno) hdepth
  | rightParen hno hdepth =>
    cases hnext
    exact .rightParen (hright [')'] ha hno) hdepth
  | actionQuote hno =>
    cases hnext
    exact .actionQuote (hright ['"'] ha hno)
  | @actionWord _ c rest hno hstart =>
    cases hnext
    obtain ⟨tail, rfl⟩ := List.head?_eq_some_iff.mp (head?_eq_of_take ha)
    have htail : tail.head? = rest.head? := by
      cases tail <;> cases rest <;> simp_all [State.Alike]
    refine .actionWord (not_prefix_of_take (by decide) ha hno) ?_
    rw [htail]
    exact hstart
  | directive hext =>
    cases hnext
    obtain ⟨tail, rfl⟩ := List.head?_eq_some_iff.mp ha
    exact .directive fun he => ⟨(hext he).1, hfront (hext he).2⟩
  | openDirective => exact .openDirective
  | blanks hne hrun =>
    cases hnext
    -- Behind the longest run of blanks there is no other one.
    rcases ha with heq | ⟨⟨c, hc, hb⟩, -⟩
    · exact .blanks hne (hrun.of_head? heq)
    · exact absurd ((hrun.stops c hc).symm.trans hb) (by decide)
  | bodyQuote => exact .bodyQuote
  | bodyWord hword =>
    cases hnext
    obtain ⟨tail, rfl⟩ := List.head?_eq_some_iff.mp ha
    exact .bodyWord hword
  | lineEnd heol =>
    cases hnext
    exact .lineEnd (heol.before (ha.imp_right And.right))
  | closeDirective => exact .closeDirective
  | extendsQuote => exact .extendsQuote
  | closeExtends => exact .closeExtends
  | word hne hrun =>
    cases hnext
    refine .word hne ?_
    rcases Resume.head?_or_blank ha with heq | hblank
    · exact hrun.of_head? heq
    · exact hrun.of_blank hblank
  | string hcs => exact .string hcs
  | _ => cases hnext

/-! ### Paths before another text -/

variable {d : Delimiters} {source : List Char} {ts : List Token} {p p' q : Place}
  {slot : Option Token}

theorem Step.before (h : Step standard p slot p') (hs : p'.state = some next)
    (ha : next.Alike p'.rest rest') :
    ∃ taken s, p.state = some s ∧ p.rest = taken ++ p'.rest ∧ s.Alike p.rest (taken ++ rest') ∧
      Step standard { p with rest := taken ++ rest' } slot { p' with rest := rest' } := by
  cases h with
  | finish hr => exact ⟨_, _, rfl, rfl, hr.alike hs ha, .finish (hr.before hs ha id)⟩
  | drop hr => exact ⟨_, _, rfl, rfl, hr.alike hs ha, .drop (hr.before hs ha id)⟩
  | hold hr => exact ⟨_, _, rfl, rfl, hr.alike hs ha, .hold (hr.before hs ha id)⟩

theorem Path.before (h : Path standard p ts q) (hs : q.state = some next)
    (ha : next.Alike q.rest rest') :
    ∃ taken s, p.state = some s ∧ p.rest = taken ++ q.rest ∧ s.Alike p.rest (taken ++ rest') ∧
      Path standard { p with rest := taken ++ rest' } ts { q with rest := rest' } := by
  induction h with
  | refl => exact ⟨[], next, hs, rfl, ha, .refl⟩
  | step hstep _ ih =>
    obtain ⟨taken', s', hs', hrest', ha', hpath⟩ := ih hs ha
    obtain ⟨taken, s, hs, hrest, ha, hstep⟩ := hstep.before hs' ha'
    refine ⟨taken ++ taken', s, hs, ?_, ?_, ?_⟩
    · rw [hrest, hrest', List.append_assoc]
    · rwa [List.append_assoc]
    · rw [List.append_assoc]
      exact .step hstep hpath

/-- A path from the start of a template to a place is one through every template that has the same
text up to this place and looks the same there. -/
theorem Path.before_start (h : Path standard (Place.start source) ts q) (rest' : List Char)
    (hs : q.state = some next) (ha : next.Alike q.rest rest') :
    Path standard (Place.start (q.front ++ q.held ++ rest')) ts { q with rest := rest' } := by
  obtain ⟨taken, s, -, hrest, -, hpath⟩ := h.before hs ha
  have hsource := h.source_eq
  have htaken : taken = q.front ++ q.held :=
    (List.append_cancel_right (hsource.trans hrest)).symm
  rw [htaken] at hpath
  exact hpath

/-! ### Paths behind another text -/

/-- A token that has to do with an extends directive: its name, or an error about it. -/
def TokenKind.concernsExtends : TokenKind → Bool
  | .directive .extends_ | .error .duplicateExtends | .error .misplacedExtends => true
  | _ => false

/-- The same token, further on by `distance` bytes. -/
structure Token.Moved (distance : Int) (t u : Token) : Prop where
  kind_eq : u.kind = t.kind
  text_eq : u.text = t.text
  offset_eq : (u.offset : Int) = t.offset + distance

variable {saw : Bool}

theorem Rule.concernsExtends {nameLen : Nat}
    (h : Rule d front (.directive .extends_ nameLen) m taken rest e m') :
    ∃ kind next, e = .finish kind next ∧ kind.concernsExtends = true := by
  cases h with
  | directive | duplicateExtends | misplacedExtends => exact ⟨_, _, rfl, rfl⟩

/-- Once something is behind, no extends directive is begun. -/
theorem Rule.sawExtends_eq (h : Rule d front s m taken rest e m') (hfront : front ≠ []) :
    m'.sawExtends = m.sawExtends := by
  cases h with
  | @directive _ dir _ hext =>
    have hno : dir.isExtends = false := by
      rw [Bool.eq_false_iff]
      intro he
      exact hfront (hext he).2
    show (m.sawExtends || dir.isExtends) = m.sawExtends
    rw [hno, Bool.or_false]
  | _ => rfl

/-- A rule applies behind any other text and whether or not an extends directive was seen, unless
it is about such a directive. -/
theorem Rule.moved (h : Rule d front s m taken rest e m')
    (hext : ∀ nameLen, s = .directive .extends_ nameLen →
      front ≠ [] ∧ front' ≠ [] ∧ m.sawExtends = saw) :
    Rule d front' s { m with sawExtends := saw } taken rest e { m' with sawExtends := saw } := by
  cases h with
  | text hrun hplain hcalls => exact .text hrun hplain hcalls
  | opener hcalls => exact .opener hcalls
  | eof => exact .eof
  | openComment hopen => exact .openComment hopen
  | openAction hopen => exact .openAction hopen
  | comment hbody => exact .comment hbody
  | unclosedComment hclose => exact .unclosedComment hclose
  | earlyComment hbody hright => exact .earlyComment hbody hright
  | closeAction hdepth => exact .closeAction hdepth
  | unclosedParen hdepth hright => exact .unclosedParen hdepth hright
  | unclosedAction => exact .unclosedAction
  | run hright hstart hruns hrun => exact .run hright hstart hruns hrun
  | colonEquals hright => exact .colonEquals hright
  | leftParen hright hdepth => exact .leftParen hright hdepth
  | rightParen hright hdepth => exact .rightParen hright hdepth
  | surplusParen hright hdepth => exact .surplusParen hright hdepth
  | actionQuote hright => exact .actionQuote hright
  | actionWord hright hstart => exact .actionWord hright hstart
  | unrecognized hright hstart => exact .unrecognized hright hstart
  | @directive _ dir rest hfirst =>
    have hno : dir.isExtends = false := by
      cases dir with
      | extends_ => exact absurd (hfirst rfl).2 (hext _ rfl).1
      | _ => rfl
    have hrule : Rule d front' (.directive dir (size dir.spelling.toList))
        { m with sawExtends := saw } (d.marker ++ dir.spelling.toList) ('(' :: rest)
        (.finish (.directive dir) (some (.openDirective dir.isExtends)))
        { m with sawExtends := saw || dir.isExtends } :=
      .directive fun he => absurd he (by rw [hno]; decide)
    rw [hno, Bool.or_false] at hrule
    rw [hno]
    exact hrule
  | @duplicateExtends _ dir nameLen _ he hsaw =>
    cases dir with
    | extends_ => exact .duplicateExtends he ((hext _ rfl).2.2.symm.trans hsaw)
    | _ => cases he
  | @misplacedExtends _ dir nameLen _ he hsaw =>
    cases dir with
    | extends_ => exact .misplacedExtends he ((hext _ rfl).2.2.symm.trans hsaw) (hext _ rfl).2.1
    | _ => cases he
  | openDirective => exact .openDirective
  | blanks hne hrun => exact .blanks hne hrun
  | bodyQuote => exact .bodyQuote
  | bodyWord hword => exact .bodyWord hword
  | lineEnd heol => exact .lineEnd heol
  | closeDirective => exact .closeDirective
  | unclosedDirective => exact .unclosedDirective
  | unexpected hstart => exact .unexpected hstart
  | extendsQuote => exact .extendsQuote
  | expectedQuote hquote => exact .expectedQuote hquote
  | closeExtends => exact .closeExtends
  | expectedClose hclose => exact .expectedClose hclose
  | word hne hrun => exact .word hne hrun
  | string hcs => exact .string hcs
  | unterminated hcs hend => exact .unterminated hcs hend

/-- A place with another text before the last part of its front, and another memory of extends
directives. -/
def Place.behind (p : Place) (front : List Char) (saw : Bool) : Place :=
  { p with front := front, memory := { p.memory with sawExtends := saw } }

variable {f x : List Char}

theorem Step.moved (h : Step d p slot p') (g : List Char) (saw : Bool) (hfront : p.front = f ++ x)
    (hext : (∀ t ∈ slot, t.kind.concernsExtends = false) ∨
      f ≠ [] ∧ g ≠ [] ∧ p.memory.sawExtends = saw) :
    ∃ y slot', p'.front = f ++ y ∧
      List.Forall₂ (Token.Moved (size g - size f)) slot.toList slot'.toList ∧
      Step d (p.behind (g ++ x) saw) slot' (p'.behind (g ++ y) saw) := by
  -- An extends directive finishes a token that concerns it.
  have hrule : ∀ {s m taken rest e m'}, Rule d p.front s m taken rest e m' → p.memory = m →
      (∀ kind next, e = .finish kind next → ∃ t ∈ slot, t.kind = kind) →
      Rule d (g ++ x) s { m with sawExtends := saw } taken rest e { m' with sawExtends := saw } := by
    intro s m taken rest e m' hr hm hfinish
    apply hr.moved
    rintro nameLen rfl
    rcases hext with hno | ⟨hf, hg, hsaw⟩
    · obtain ⟨kind, next, he, hconcerns⟩ := hr.concernsExtends
      obtain ⟨t, ht, hkind⟩ := hfinish kind next he
      rw [← hkind, hno t ht] at hconcerns
      cases hconcerns
    · rw [hfront]
      exact ⟨List.append_ne_nil_of_left_ne_nil hf _, List.append_ne_nil_of_left_ne_nil hg _,
        hm ▸ hsaw⟩
  cases h with
  | @finish s m front held taken rest kind next m' hr =>
    obtain rfl : front = f ++ x := hfront
    have hr' := hrule hr rfl fun kind next he => by
      cases he
      exact ⟨_, rfl, rfl⟩
    refine ⟨x ++ (held ++ taken), some ⟨kind, size (g ++ x), held ++ taken⟩,
      List.append_assoc f x _, .cons ⟨rfl, rfl, ?_⟩ .nil, ?_⟩
    · simp only [size_append]
      omega
    · rw [← List.append_assoc g x]
      exact .finish hr'
  | @drop s m front held taken rest next m' hr =>
    obtain rfl : front = f ++ x := hfront
    have hr' := hrule hr rfl fun kind next he => by cases he
    refine ⟨x ++ (held ++ taken), none, List.append_assoc f x _, .nil, ?_⟩
    rw [← List.append_assoc g x]
    exact .drop hr'
  | @hold s m front held taken rest next m' hr =>
    obtain rfl : front = f ++ x := hfront
    have hr' := hrule hr rfl fun kind next he => by cases he
    exact ⟨x, none, rfl, .nil, .hold hr'⟩

/-- A path moves behind another text, and its tokens move with it. It may not concern extends
directives, unless there is text behind it before and after, and the same memory of them. -/
theorem Path.moved (h : Path d p ts q) (g : List Char) (saw : Bool) (hfront : p.front = f ++ x)
    (hext : (∀ t ∈ ts, t.kind.concernsExtends = false) ∨
      f ≠ [] ∧ g ≠ [] ∧ p.memory.sawExtends = saw) :
    ∃ y us, q.front = f ++ y ∧ List.Forall₂ (Token.Moved (size g - size f)) ts us ∧
      Path d (p.behind (g ++ x) saw) us (q.behind (g ++ y) saw) := by
  induction h generalizing x with
  | refl => exact ⟨x, [], hfront, .nil, .refl⟩
  | @step p p' q slot ts hs _ ih =>
    have hstep : (∀ t ∈ slot, t.kind.concernsExtends = false) ∨
        f ≠ [] ∧ g ≠ [] ∧ p.memory.sawExtends = saw :=
      hext.imp_left fun hno t ht => hno t (List.mem_append_left _ (Option.mem_toList.mpr ht))
    obtain ⟨y, slot', hfront', htoken, hstep'⟩ := hs.moved g saw hfront hstep
    have hrest : (∀ t ∈ ts, t.kind.concernsExtends = false) ∨
        f ≠ [] ∧ g ≠ [] ∧ p'.memory.sawExtends = saw := by
      rcases hext with hno | ⟨hf, hg, hsaw⟩
      · exact .inl fun t ht => hno t (List.mem_append_right _ ht)
      · obtain ⟨s, taken, e, -, -, -, hr⟩ := hs.exists_rule
        have hne : p.front ≠ [] := by
          rw [hfront]
          exact List.append_ne_nil_of_left_ne_nil hf x
        exact .inr ⟨hf, hg, (hr.sawExtends_eq hne).trans hsaw⟩
    obtain ⟨z, us, hz, htokens, hpath⟩ := ih hfront' hrest
    exact ⟨z, slot'.toList ++ us, hz, List.rel_append htoken htokens, .step hstep' hpath⟩

end TemplateLexer
