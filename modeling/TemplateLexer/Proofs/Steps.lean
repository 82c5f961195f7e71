import TemplateLexer.Proofs.Rules

/-!
# The lexer follows the rules

A lexer stands at a place when its cursor is between what is behind and what is ahead, its token in
progress starts at the end of the front, its slot is empty, and its state and memory are those of
the place. From there, whatever a rule says is what a step of the lexer does: it does not fault, the
token of the rule is in the slot, and once this is emptied the lexer stands at the next place
(`Lexer.step_reaches`). One lemma for each state computes the step.
-/

namespace TemplateLexer

open Text

/-- The token that an effect finishes. -/
def Effect.slot (front held taken : List Char) : Effect → Option Token
  | .finish kind _ => some ⟨kind, size front, held ++ taken⟩
  | _ => none

/-- The place to which an effect leads. -/
def Effect.place (front held taken rest : List Char) (m : Memory) : Effect → Place
  | .finish _ next => ⟨next, front ++ (held ++ taken), [], rest, m⟩
  | .drop next => ⟨some next, front ++ (held ++ taken), [], rest, m⟩
  | .hold next => ⟨some next, front, held ++ taken, rest, m⟩

/-- What is held when a state is entered: the opening quote of a string, and otherwise nothing. -/
def State.held : State → List Char
  | .quote _ => ['"']
  | _ => []

namespace Lexer

/-- What a lexer remembers. -/
def memory (l : Lexer) : Memory := ⟨l.openParens, l.sawExtends⟩

/-- A lexer whose finished token was taken. -/
def emptied (l : Lexer) : Lexer := { l with pending := none }

/-- The template is cut into `front`, the token in progress and `rest`. -/
structure Holds (l : Lexer) (d : Delimiters) (front held rest : List Char) : Prop where
  delims_eq : l.delims = d
  between : l.cursor.Between (front ++ held) rest
  start_eq : l.start = size front
  pending_eq : l.pending = none

/-- The lexer stands at a place. -/
structure Stands (l : Lexer) (d : Delimiters) (p : Place) : Prop where
  holds : l.Holds d p.front p.held p.rest
  state_eq : l.state = p.state
  memory_eq : l.memory = p.memory

/-- A step does not fault, leaves `slot` in the slot, and leads to `p`. -/
def Reaches (result : Except Fault Lexer) (d : Delimiters) (slot : Option Token) (p : Place) :
    Prop :=
  ∃ l', result = .ok l' ∧ l'.pending = slot ∧ l'.emptied.Stands d p

variable {l : Lexer} {d : Delimiters} {front held taken rest : List Char} {e : Effect}
  {m' : Memory}

/-! ### Finishing, dropping, holding -/

theorem Holds.moveTo {c : Cursor} (h : l.Holds d front held (taken ++ rest))
    (hc : c.Between (front ++ held ++ taken) rest) :
    (l.moveTo c).Holds d front (held ++ taken) rest :=
  ⟨h.delims_eq, by rw [← List.append_assoc]; exact hc, h.start_eq, h.pending_eq⟩

theorem Holds.count (h : l.Holds d front held rest) (depth : Nat) :
    ({ l with openParens := depth } : Lexer).Holds d front held rest :=
  ⟨h.delims_eq, h.between, h.start_eq, h.pending_eq⟩

theorem Holds.emit_eq (h : l.Holds d front held rest) (kind : TokenKind) :
    l.emit kind =
      .ok { l with pending := some ⟨kind, size front, held⟩, start := l.cursor.pos } := by
  rw [emit, h.pending_eq, h.start_eq]
  simp only [bind, Except.bind, h.between.sliceFrom_eq]
  rfl

/-- The place behind the token in progress. -/
theorem Holds.next (h : l.Holds d front held rest) :
    l.cursor.Between (front ++ held ++ []) rest ∧ l.cursor.pos = size (front ++ held) :=
  ⟨by rw [List.append_nil]; exact h.between, h.between.pos_eq⟩

theorem Holds.emitAndEnter_reaches (h : l.Holds d front held rest) (kind : TokenKind) (s : State) :
    Reaches (l.emitAndEnter kind s) d (some ⟨kind, size front, held⟩)
      ⟨some s, front ++ held, [], rest, l.memory⟩ := by
  rw [emitAndEnter, h.emit_eq]
  exact ⟨_, rfl, rfl, ⟨h.delims_eq, h.next.1, h.next.2, rfl⟩, rfl, rfl⟩

theorem Holds.fail_reaches (h : l.Holds d front held rest) (error : LexicalError) :
    Reaches (l.fail error) d (some ⟨.error error, size front, held⟩)
      ⟨none, front ++ held, [], rest, l.memory⟩ := by
  rw [fail, h.emit_eq]
  exact ⟨_, rfl, rfl, ⟨h.delims_eq, h.next.1, h.next.2, rfl⟩, rfl, rfl⟩

/-- An error that takes nothing. -/
theorem Holds.fail_reaches_nil (h : l.Holds d front held rest) (error : LexicalError) :
    Reaches (l.fail error) d ((Effect.fail error).slot front held [])
      ((Effect.fail error).place front held [] rest l.memory) := by
  simp only [Effect.slot, Effect.place, List.append_nil]
  exact h.fail_reaches error

theorem Holds.discard_reaches (h : l.Holds d front held rest) (s : State) :
    Reaches (.ok (l.discard.enter s)) d none ⟨some s, front ++ held, [], rest, l.memory⟩ :=
  ⟨_, rfl, h.pending_eq, ⟨h.delims_eq, h.next.1, h.next.2, rfl⟩, rfl, rfl⟩

theorem Holds.enter_reaches (h : l.Holds d front held rest) (s : State) :
    Reaches (.ok (l.enter s)) d none ⟨some s, front, held, rest, l.memory⟩ :=
  ⟨_, rfl, h.pending_eq, ⟨h.delims_eq, h.between, h.start_eq, rfl⟩, rfl, rfl⟩

/-! ### Literal text -/

theorem stepText_eq {opener : Option Opener} {c : Cursor}
    (h : l.delims.seekOpener l.cursor = .ok (opener, c)) :
    l.stepText = do return (← (l.moveTo c).emitText).enter (stateAt opener) := by
  rw [stepText, h]
  rcases opener with _ | _ | _ <;> rfl

theorem stepText_reaches (h : l.Holds d front [] (taken ++ rest))
    (hr : Rule d front .text l.memory taken rest e m') :
    Reaches l.stepText d (e.slot front [] taken) (e.place front [] taken rest m') := by
  have hb := h.between
  rw [List.append_nil] at hb
  cases hr with
  | @text _ run rest s hrun hplain hcalls =>
    obtain ⟨opener, c, hseek, hc, hs⟩ := Delimiters.seekOpener_eq hplain hb hcalls
    have hmoved := h.moveTo (by rw [List.append_nil]; exact hc)
    have hlt : (l.moveTo c).start < (l.moveTo c).cursor.pos := by
      have := size_pos_of_ne_nil hrun
      rw [hmoved.start_eq, hmoved.between.pos_eq, size_append, size_append]
      omega
    rw [← h.delims_eq] at hseek
    rw [stepText_eq hseek, emitText, if_pos hlt, hs]
    exact hmoved.emitAndEnter_reaches .text s
  | @opener _ rest s hcalls =>
    -- The search does not move, and there is no text to finish.
    obtain ⟨opener, c, hseek, hc, hs⟩ := Delimiters.seekOpener_eq (.stop hcalls.stops) hb hcalls
    have hmoved : (l.moveTo c).Holds d front [] rest := ⟨h.delims_eq, hc, h.start_eq, h.pending_eq⟩
    have hlt : ¬ (l.moveTo c).start < (l.moveTo c).cursor.pos := by
      rw [hmoved.start_eq, hmoved.between.pos_eq, List.append_nil]
      exact Nat.lt_irrefl _
    rw [← h.delims_eq] at hseek
    rw [stepText_eq hseek, emitText, if_neg hlt, hs]
    exact hmoved.enter_reaches s

theorem stepEof_reaches (h : l.Holds d front held (taken ++ rest))
    (hr : Rule d front .eof l.memory taken rest e m') :
    Reaches l.stepEof d (e.slot front held taken) (e.place front held taken rest m') := by
  cases hr
  rw [stepEof, h.emit_eq]
  simp only [Effect.slot, Effect.place, List.append_nil]
  exact ⟨_, rfl, rfl, ⟨h.delims_eq, h.next.1, h.next.2, rfl⟩, rfl, rfl⟩

/-! ### Comments -/

theorem stepLeftDelim_reaches (h : l.Holds d front held (taken ++ rest))
    (hr : Rule d front .leftDelim l.memory taken rest e m') :
    Reaches l.stepLeftDelim d (e.slot front held taken) (e.place front held taken rest m') := by
  cases hr with
  | openComment hopen =>
    obtain ⟨c, hadv, hc⟩ := h.between.advanceBy_eq d.left
    have hmoved := h.moveTo hc
    rw [stepLeftDelim, h.delims_eq, hadv]
    simp only [bind, Except.bind, hmoved.emit_eq, hc.startsWith_eq,
      List.isPrefixOf_iff_prefix.mpr hopen, ↓reduceIte]
    exact ⟨_, rfl, rfl, ⟨h.delims_eq, hmoved.next.1, hmoved.next.2, rfl⟩, rfl, rfl⟩
  | openAction hopen =>
    obtain ⟨c, hadv, hc⟩ := h.between.advanceBy_eq d.left
    have hmoved := h.moveTo hc
    rw [stepLeftDelim, h.delims_eq, hadv]
    simp only [bind, Except.bind, hmoved.emit_eq, hc.startsWith_eq,
      mt List.isPrefixOf_iff_prefix.mp hopen, Bool.false_eq_true, ↓reduceIte]
    exact ⟨_, rfl, rfl, ⟨h.delims_eq, hmoved.next.1, hmoved.next.2, rfl⟩, rfl, rfl⟩

/-- The closing mark is found behind a body in which it does not occur: its two characters differ,
so that it cannot begin inside the body and end outside. -/
theorem findInfix?_commentClose {body : List Char} (h : ¬ commentClose <:+: body)
    (rest : List Char) :
    findInfix? (bytes commentClose) (bytes (body ++ commentClose ++ rest)) = some (size body) := by
  induction body with
  | nil => exact findInfix?_bytes_of_prefix (List.prefix_append commentClose rest)
  | cons x body ih =>
    have hbody : ¬ commentClose <:+: body := fun hi =>
      h (hi.trans (List.suffix_cons x body).isInfix)
    have hx : ¬ commentClose <+: x :: (body ++ commentClose ++ rest) := by
      intro hpre
      -- Behind the last character of the body stands the star of the mark, and no slash.
      cases body with
      | nil => simp [commentClose] at hpre
      | cons y body =>
        simp only [commentClose, List.cons_append, List.cons_prefix_cons] at hpre
        obtain ⟨rfl, rfl, -⟩ := hpre
        exact h ⟨[], body, rfl⟩
    show findInfix? _ (bytes (x :: (body ++ commentClose ++ rest))) = _
    rw [findInfix?_bytes_cons (by decide) hx, ih hbody, Option.map_some, size_cons, Nat.add_comm]

/-- Inside a comment whose closing mark is there, the step goes on behind the mark. -/
theorem stepComment_closed {body : List Char} (h : l.Holds d front held
    (commentOpen ++ body ++ commentClose ++ rest)) (hbody : ¬ commentClose <:+: body) :
    ∃ c, c.Between (front ++ held ++ (commentOpen ++ body ++ commentClose)) rest ∧
      l.stepComment =
        if d.right.isPrefixOf rest then do
          let cursor ← c.advanceBy (size d.right)
          return (l.moveTo cursor).discard.enter .text
        else (l.moveTo c).fail .commentEndsBeforeDelimiter := by
  have hb := h.between
  rw [List.append_assoc, List.append_assoc] at hb
  obtain ⟨c₁, hadv, hc₁⟩ := hb.advanceBy_eq commentOpen
  rw [← List.append_assoc] at hc₁
  have hfind : c₁.find commentClose = .ok (some (size body)) := by
    rw [hc₁.find_eq, findInfix?_commentClose hbody]
  obtain ⟨c₂, hadv', hc₂⟩ := hc₁.advanceBy_eq (body ++ commentClose)
  rw [size_append] at hadv'
  refine ⟨c₂, by simpa using hc₂, ?_⟩
  rw [stepComment, hadv]
  simp only [bind, Except.bind, hfind, hadv', h.delims_eq, hc₂.startsWith_eq]

theorem stepComment_reaches (h : l.Holds d front held (taken ++ rest))
    (hr : Rule d front .comment l.memory taken rest e m') :
    Reaches l.stepComment d (e.slot front held taken) (e.place front held taken rest m') := by
  cases hr with
  | @comment _ body rest hbody =>
    have h' := h
    rw [List.append_assoc] at h'
    obtain ⟨c, hc, hstep⟩ := stepComment_closed h' hbody
    obtain ⟨c', hadv, hc'⟩ := hc.advanceBy_eq d.right
    rw [hstep, if_pos (by simp), hadv]
    exact (h.moveTo (by simpa using hc')).discard_reaches .text
  | unclosedComment hrest =>
    obtain ⟨c, hadv, hc⟩ := h.between.advanceBy_eq commentOpen
    rw [stepComment, hadv]
    simp only [bind, Except.bind, hc.find_eq, findInfix?_bytes_eq_none hrest]
    exact (h.moveTo hc).fail_reaches _
  | @earlyComment _ body rest hbody hright =>
    obtain ⟨c, hc, hstep⟩ := stepComment_closed h hbody
    rw [hstep, if_neg (by simpa using hright)]
    exact (h.moveTo hc).fail_reaches _

/-! ### Actions -/

/-- Short of the right delimiter, an action goes on with what its next character begins. The step
forward that read the character can still be taken back. -/
theorem stepAction_eq {x : Char} (h : l.Holds d front held (x :: rest))
    (hright : ¬ d.right <+: x :: rest) :
    ∃ c, l.stepAction = (l.moveTo c).stepActionToken x (.of x rest.head?) ∧
      (l.moveTo c).Holds d front (held ++ [x]) rest ∧
      ∃ c', c.backUp = .ok c' ∧ c'.Between (front ++ held) (x :: rest) := by
  obtain ⟨c, hbump, hc, hback⟩ := h.between.bump_cons
  refine ⟨c, ?_, h.moveTo hc, hback⟩
  rw [stepAction, h.between.startsWith_eq, h.delims_eq]
  simp only [bind, Except.bind, mt List.isPrefixOf_iff_prefix.mp hright, Bool.false_eq_true,
    ↓reduceIte, hbump, hc.peek_eq]

theorem emitRun_reaches {p : Char → Bool} {run : List Char} (h : l.Holds d front held (run ++ rest))
    (hrun : LongestRun p run rest) (kind : TokenKind) :
    Reaches (l.emitRun p kind) d (some ⟨kind, size front, held ++ run⟩)
      ⟨some .action, front ++ (held ++ run), [], rest, l.memory⟩ := by
  obtain ⟨c, heat, hc⟩ := h.between.eatWhile_eq hrun
  rw [emitRun, heat]
  exact (h.moveTo hc).emitAndEnter_reaches kind .action

theorem stepActionToken_reaches_run (x : Char) {start : ActionStart} {kind : TokenKind}
    {p : Char → Bool} {run : List Char} (h : l.Holds d front held (run ++ rest))
    (hstart : start.Runs kind p) (hrun : LongestRun p run rest) :
    Reaches (l.stepActionToken x start) d (some ⟨kind, size front, held ++ run⟩)
      ⟨some .action, front ++ (held ++ run), [], rest, l.memory⟩ := by
  cases hstart with
  | space | var | number | field => exact emitRun_reaches h hrun _
  | pipe | dot | char =>
    obtain rfl := hrun.eq_nil
    rw [List.append_nil]
    exact Holds.emitAndEnter_reaches h _ _

theorem stepAction_reaches (h : l.Holds d front held (taken ++ rest))
    (hr : Rule d front .action l.memory taken rest e m') :
    Reaches l.stepAction d (e.slot front held taken) (e.place front held taken rest m') := by
  cases hr with
  | closeAction hdepth =>
    obtain ⟨c, hadv, hc⟩ := h.between.advanceBy_eq d.right
    have hdepth' : ¬ 0 < l.openParens := Nat.not_lt.mpr (Nat.le_of_eq hdepth)
    rw [stepAction, h.between.startsWith_eq, h.delims_eq]
    simp only [bind, Except.bind, List.isPrefixOf_iff_prefix.mpr (List.prefix_append _ _),
      ↓reduceIte, hdepth', hadv]
    exact (h.moveTo hc).emitAndEnter_reaches _ _
  | unclosedParen hdepth hright =>
    have hdepth' : 0 < l.openParens := hdepth
    rw [List.nil_append] at h
    rw [stepAction, h.between.startsWith_eq, h.delims_eq]
    simp only [bind, Except.bind, List.isPrefixOf_iff_prefix.mpr hright, ↓reduceIte, hdepth']
    exact h.fail_reaches_nil _
  | unclosedAction =>
    have hright : ¬ d.right <+: [] := fun hpre => d.right_ne (List.prefix_nil.mp hpre)
    obtain ⟨c, hbump, hc, -⟩ := h.between.bump_nil
    rw [stepAction, h.between.startsWith_eq, h.delims_eq]
    simp only [bind, Except.bind, List.nil_append, mt List.isPrefixOf_iff_prefix.mp hright,
      Bool.false_eq_true, ↓reduceIte, hbump]
    exact (h.moveTo (by simpa using hc)).fail_reaches _
  | @run _ x _ _ _ _ _ hright hstart hruns hrun =>
    rw [List.cons_append] at h
    obtain ⟨c, hstep, hmoved, -⟩ := stepAction_eq h hright
    rw [hstep, hstart]
    have := stepActionToken_reaches_run x hmoved hruns hrun
    rw [List.append_assoc] at this
    exact this
  | colonEquals hright =>
    obtain ⟨c, hstep, hmoved, -⟩ := stepAction_eq h hright
    obtain ⟨c', hbump, hc', -⟩ := hmoved.between.bump_cons
    rw [hstep]
    show Reaches (do ((l.moveTo c).moveTo (← (l.moveTo c).cursor.bump).2).emitAndEnter _ _) d _ _
    rw [hbump]
    have := (hmoved.moveTo hc').emitAndEnter_reaches .colonEquals .action
    rw [List.append_assoc] at this
    exact this
  | leftParen hright hdepth =>
    obtain ⟨c, hstep, hmoved, -⟩ := stepAction_eq h hright
    have hcount : (l.moveTo c).countParen =
        .ok { l.moveTo c with openParens := (l.moveTo c).openParens + 1 } := if_pos hdepth
    rw [hstep]
    show Reaches (do (← (l.moveTo c).countParen).emitAndEnter .leftParen .action) d _ _
    rw [hcount]
    exact (hmoved.count _).emitAndEnter_reaches _ _
  | rightParen hright hdepth =>
    obtain ⟨c, hstep, hmoved, -⟩ := stepAction_eq h hright
    have hdepth' : (l.moveTo c).openParens = _ + 1 := hdepth
    rw [hstep]
    show Reaches ((l.moveTo c).stepActionToken ')' .rightParen) d _ _
    simp only [stepActionToken, hdepth']
    exact (hmoved.count _).emitAndEnter_reaches _ _
  | surplusParen hright hdepth =>
    obtain ⟨c, hstep, hmoved, -⟩ := stepAction_eq h hright
    have hdepth' : (l.moveTo c).openParens = 0 := hdepth
    rw [hstep]
    show Reaches ((l.moveTo c).stepActionToken ')' .rightParen) d _ _
    simp only [stepActionToken, hdepth']
    exact hmoved.fail_reaches _
  | actionQuote hright =>
    obtain ⟨c, hstep, hmoved, -⟩ := stepAction_eq h hright
    rw [hstep]
    exact hmoved.enter_reaches _
  | actionWord hright hstart =>
    obtain ⟨c, hstep, hmoved, c', hback, hc'⟩ := stepAction_eq h hright
    rw [hstep, hstart]
    -- The character that was read is given back, and the word begins with it.
    show Reaches (do return ((l.moveTo c).moveTo (← c.backUp)).enter _) d _ _
    rw [hback]
    have hreturned : ((l.moveTo c).moveTo c').Holds d front (held ++ []) _ :=
      ⟨h.delims_eq, by rw [List.append_nil]; exact hc', h.start_eq, h.pending_eq⟩
    exact hreturned.enter_reaches _
  | unrecognized hright hstart =>
    rw [List.singleton_append] at h
    obtain ⟨c, hstep, hmoved, -⟩ := stepAction_eq h hright
    rw [hstep, hstart]
    exact hmoved.fail_reaches _

/-! ### Directives -/

theorem stepDirective_reaches {dir : Directive} {nameLen : Nat}
    (h : l.Holds d front held (taken ++ rest))
    (hr : Rule d front (.directive dir nameLen) l.memory taken rest e m') :
    Reaches (l.stepDirective dir nameLen) d (e.slot front held taken)
      (e.place front held taken rest m') := by
  cases hr with
  | directive hallowed =>
    have hdup : ¬ (dir.isExtends ∧ l.sawExtends) := by
      rintro ⟨he, hs⟩
      exact absurd ((hallowed he).1.symm.trans hs) (by simp)
    have hmis : ¬ (dir.isExtends ∧ 0 < l.start) := by
      rintro ⟨he, hs⟩
      rw [h.start_eq, (hallowed he).2] at hs
      exact absurd hs (by simp)
    obtain ⟨c, hadv, hc⟩ := h.between.advanceBy_eq (d.marker ++ dir.spelling.toList)
    rw [size_append, ← h.delims_eq] at hadv
    rw [stepDirective, if_neg hdup, if_neg hmis, hadv]
    have hmarked : (({ l with sawExtends := l.sawExtends || dir.isExtends } : Lexer).moveTo c).Holds
        d front (held ++ (d.marker ++ dir.spelling.toList)) _ :=
      ⟨h.delims_eq, (h.moveTo hc).between, h.start_eq, h.pending_eq⟩
    exact hmarked.emitAndEnter_reaches _ _
  | duplicateExtends he hs =>
    rw [stepDirective, if_pos ⟨he, hs⟩]
    exact Holds.fail_reaches_nil h _
  | misplacedExtends he hs hfront =>
    have hstart : 0 < l.start := by
      rw [h.start_eq]
      exact size_pos_of_ne_nil hfront
    have hdup : ¬ (dir.isExtends ∧ l.sawExtends) := by
      rintro ⟨-, hs'⟩
      exact absurd (hs.symm.trans hs') (by simp)
    rw [stepDirective, if_neg hdup, if_pos ⟨he, hstart⟩]
    exact Holds.fail_reaches_nil h _

theorem stepOpenDirective_reaches {extends_ : Bool} (h : l.Holds d front held (taken ++ rest))
    (hr : Rule d front (.openDirective extends_) l.memory taken rest e m') :
    Reaches (l.stepOpenDirective extends_) d (e.slot front held taken)
      (e.place front held taken rest m') := by
  cases hr
  obtain ⟨c, hadv, hc⟩ := h.between.advanceBy_eq ['(']
  have hadv' : l.cursor.advanceBy 1 = .ok c := hadv
  rw [stepOpenDirective, hadv']
  exact (h.moveTo hc).emitAndEnter_reaches _ _

/-- A word character begins nothing else in a body. -/
theorem not_special_of_isWordChar {x : Char} (hx : isWordChar x = true) :
    isInlineBlank x = false ∧ x ≠ '"' := by
  constructor
  · rw [Bool.eq_false_iff]
    intro hblank
    simp only [isInlineBlank, Bool.or_eq_true, beq_iff_eq] at hblank
    rcases hblank with rfl | rfl <;> exact absurd hx (by decide)
  · rintro rfl
    exact absurd hx (by decide)

theorem eatLineFeed_eq {c : Cursor} (hc : c.Between front rest) :
    (rest.head? ≠ some '\n' → eatLineFeed c = .ok c) ∧
      ∀ tail, rest = '\n' :: tail →
        ∃ c', eatLineFeed c = .ok c' ∧ c'.Between (front ++ ['\n']) tail := by
  constructor
  · intro hhead
    rw [eatLineFeed, hc.peek_eq]
    simp only [bind, Except.bind, hhead, if_false]
    rfl
  · rintro tail rfl
    obtain ⟨c', hbump, hc', -⟩ := hc.bump_cons
    refine ⟨c', ?_, hc'⟩
    rw [eatLineFeed, hc.peek_eq, hbump]
    rfl

theorem stepInsideDirective_reaches (h : l.Holds d front held (taken ++ rest))
    (hr : Rule d front .insideDirective l.memory taken rest e m') :
    Reaches l.stepInsideDirective d (e.slot front held taken)
      (e.place front held taken rest m') := by
  rw [stepInsideDirective, h.between.peek_eq]
  simp only [bind, Except.bind]
  cases hr with
  | @blanks _ run rest hne hrun =>
    obtain ⟨c, heat, hc⟩ := h.between.eatWhile_eq hrun
    obtain ⟨x, run, rfl⟩ := List.exists_cons_of_ne_nil hne
    simp only [List.cons_append, List.head?_cons, hrun.all x (by simp), if_true, heat]
    exact (h.moveTo hc).discard_reaches _
  | bodyQuote =>
    obtain ⟨c, hbump, hc, -⟩ := h.between.bump_cons
    simp only [List.cons_append, List.head?_cons, hbump]
    exact (h.moveTo hc).enter_reaches _
  | bodyWord hx =>
    obtain ⟨hblank, hquote⟩ := not_special_of_isWordChar hx
    simp only [List.nil_append, List.head?_cons, hblank, hquote, hx, if_true, Bool.false_eq_true,
      if_false, Effect.slot, Effect.place, List.append_nil]
    exact Holds.enter_reaches h _
  | lineEnd heol =>
    cases heol with
    | feed =>
      obtain ⟨c, hbump, hc, -⟩ := h.between.bump_cons
      simp only [List.cons_append, List.head?_cons, hbump]
      exact (h.moveTo hc).emitAndEnter_reaches _ _
    | both =>
      obtain ⟨c, hbump, hc, -⟩ := h.between.bump_cons
      obtain ⟨c', heat, hc'⟩ := (eatLineFeed_eq hc).2 _ rfl
      simp only [List.cons_append, List.head?_cons, hbump, heat]
      exact (h.moveTo (by simpa using hc')).emitAndEnter_reaches _ _
    | ret hhead =>
      obtain ⟨c, hbump, hc, -⟩ := h.between.bump_cons
      simp only [List.cons_append, List.head?_cons, hbump, (eatLineFeed_eq hc).1 hhead]
      exact (h.moveTo hc).emitAndEnter_reaches _ _
  | closeDirective =>
    obtain ⟨c, hbump, hc, -⟩ := h.between.bump_cons
    simp only [List.cons_append, List.head?_cons, hbump]
    exact (h.moveTo hc).emitAndEnter_reaches _ _
  | unclosedDirective => exact Holds.fail_reaches_nil h _
  | unexpected hx =>
    simp only [isBodyStart, Bool.or_eq_false_iff, beq_eq_false_iff_ne] at hx
    obtain ⟨⟨⟨⟨⟨hblank, hword⟩, hquote⟩, hret⟩, hfeed⟩, hclose⟩ := hx
    simp only [List.nil_append, List.head?_cons, hblank, hquote, hword, hret, hfeed, hclose,
      Bool.false_eq_true, if_false]
    exact Holds.fail_reaches_nil h _

theorem stepExtendsParam_reaches (h : l.Holds d front held (taken ++ rest))
    (hr : Rule d front .extendsParam l.memory taken rest e m') :
    Reaches l.stepExtendsParam d (e.slot front held taken)
      (e.place front held taken rest m') := by
  cases hr with
  | extendsQuote =>
    obtain ⟨c, hbump, hc, -⟩ := h.between.bump_cons
    rw [stepExtendsParam, hbump]
    exact (h.moveTo hc).enter_reaches _
  | expectedQuote hhead =>
    obtain ⟨c, hbump, -, c', hback, hc'⟩ := h.between.bump_eq
    rw [stepExtendsParam, hbump]
    simp only [bind, Except.bind]
    split
    · next heq => exact absurd (Prod.mk.inj heq).1 hhead
    · next heq =>
      cases heq
      simp only [hback]
      exact (h.moveTo (by simpa using hc')).fail_reaches _

theorem stepCloseDirective_reaches (h : l.Holds d front held (taken ++ rest))
    (hr : Rule d front .closeDirective l.memory taken rest e m') :
    Reaches l.stepCloseDirective d (e.slot front held taken)
      (e.place front held taken rest m') := by
  cases hr with
  | closeExtends =>
    obtain ⟨c, hbump, hc, -⟩ := h.between.bump_cons
    rw [stepCloseDirective, hbump]
    exact (h.moveTo hc).emitAndEnter_reaches _ _
  | expectedClose hhead =>
    obtain ⟨c, hbump, -, c', hback, hc'⟩ := h.between.bump_eq
    rw [stepCloseDirective, hbump]
    simp only [bind, Except.bind]
    split
    · next heq => exact absurd (Prod.mk.inj heq).1 hhead
    · next heq =>
      cases heq
      simp only [hback]
      exact (h.moveTo (by simpa using hc')).fail_reaches _

/-! ### Words and strings -/

theorem stepIdentifier_reaches {resume : Resume} (h : l.Holds d front [] (taken ++ rest))
    (hr : Rule d front (.identifier resume) l.memory taken rest e m') :
    Reaches (l.stepIdentifier resume) d (e.slot front [] taken)
      (e.place front [] taken rest m') := by
  cases hr with
  | word hne hrun =>
    obtain ⟨c, heat, hc⟩ := h.between.eatWhile_eq hrun
    have hmoved := h.moveTo hc
    have hslice : c.sliceFrom (size front) = .ok taken := hmoved.between.sliceFrom_eq
    rw [stepIdentifier, heat]
    simp only [bind, Except.bind, h.start_eq, hslice]
    exact hmoved.emitAndEnter_reaches _ _

theorem stepQuote_reaches {resume : Resume} (h : l.Holds d front held (taken ++ rest))
    (hr : Rule d front (.quote resume) l.memory taken rest e m') :
    Reaches (l.stepQuote resume) d (e.slot front held taken)
      (e.place front held taken rest m') := by
  cases hr with
  | string hcs =>
    obtain ⟨c, hskip, hc⟩ := Cursor.skipString_eq hcs .quote h.between
    rw [stepQuote, hskip]
    exact (h.moveTo hc).emitAndEnter_reaches _ _
  | unterminated hcs hlast =>
    obtain ⟨c, hskip, hc⟩ := Cursor.skipString_eq hcs hlast h.between
    rw [stepQuote, hskip]
    exact (h.moveTo hc).fail_reaches _

/-! ### All states -/

theorem step_reaches_rule {s : State} {m : Memory} (h : l.Holds d front s.held (taken ++ rest))
    (hm : l.memory = m) (hr : Rule d front s m taken rest e m') :
    Reaches (l.step s) d (e.slot front s.held taken) (e.place front s.held taken rest m') := by
  subst hm
  cases s with
  | text => exact stepText_reaches h hr
  | leftDelim => exact stepLeftDelim_reaches h hr
  | comment => exact stepComment_reaches h hr
  | action => exact stepAction_reaches h hr
  | directive dir nameLen => exact stepDirective_reaches h hr
  | openDirective extends_ => exact stepOpenDirective_reaches h hr
  | insideDirective => exact stepInsideDirective_reaches h hr
  | extendsParam => exact stepExtendsParam_reaches h hr
  | closeDirective => exact stepCloseDirective_reaches h hr
  | identifier resume => exact stepIdentifier_reaches h hr
  | quote resume => exact stepQuote_reaches h hr
  | eof => exact stepEof_reaches h hr

/-- From a place where a state may be entered, a step of the lexer is a step of the rules. -/
theorem step_reaches {p p' : Place} {slot : Option Token} {s : State} (h : l.Stands d p)
    (hs : p.state = some s) (hheld : p.held = s.held) (hstep : Step d p slot p') :
    Reaches (l.step s) d slot p' := by
  cases hstep with
  | finish hr =>
    cases hs
    cases hheld
    exact step_reaches_rule h.holds h.memory_eq hr
  | drop hr =>
    cases hs
    cases hheld
    exact step_reaches_rule h.holds h.memory_eq hr
  | hold hr =>
    cases hs
    cases hheld
    exact step_reaches_rule h.holds h.memory_eq hr

end Lexer

end TemplateLexer
