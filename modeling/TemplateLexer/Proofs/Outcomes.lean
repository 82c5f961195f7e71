import TemplateLexer.Command.Run
import TemplateLexer.Proofs.JsonListing
import TemplateLexer.Proofs.LineListing
import TemplateLexer.Proofs.Pointing
import TemplateLexer.Proofs.Rendezvous

/-!
# What a run leaves behind

A run looks at the last token only, and it does so whichever way the tokens were obtained. That this
is enough rests on facts about whole streams: there always is a last token, an error can stand
nowhere else, and a consumer gets the tokens that are pulled. `Command.Outcome.Settles` says what a
run leaves behind for the tokens of a template, and `Command.runs_settle` that it does, in either
mode.

What is printed shows the tokens, and no others (`Listing.Shows`, `Listing.Shows.unique`). So runs
can be told by what they print, in lines (`lines_tell`) and in JSON (`json_tells`).
-/

namespace TemplateLexer

open Text

/-! ### Both ways to the tokens -/

/-- Asking a scanner is pulling. -/
theorem Scanner.receiveUpTo_scanning (n : Nat) (l : Lexer) :
    (scanning l).receiveUpTo n = (·.1) <$> l.pullUpTo n := by
  induction n generalizing l with
  | zero => rfl
  | succ n ih =>
    rw [receiveUpTo, Lexer.pullUpTo, receive, advance]
    cases l.pull with
    | error f => rfl
    | ok r =>
      obtain ⟨t?, l'⟩ := r
      cases t? with
      | none => rfl
      | some t =>
        simp only [bind, Except.bind, pure, Except.pure]
        rw [ih]
        cases l'.pullUpTo n <;> rfl

theorem Lexer.handedOver_eq (l : Lexer) : l.handedOver = l.tokens := by
  rw [handedOver, Scanner.receiveUpTo_scanning, tokens, drain]
  cases l.pullUpTo (l.cursor.remaining + 2) <;> rfl

/-! ### Messages -/

theorem LexicalError.lineFeed_not_mem_append {s : String} (hs : '\n' ∉ s.toList)
    (found : Option Char) : '\n' ∉ (s ++ foundText found).toList := by
  rw [String.toList_append, List.mem_append, not_or]
  refine ⟨hs, ?_⟩
  cases found with
  | none => decide
  | some c =>
    rw [foundText, String.toList_ofList]
    exact lineFeed_not_mem_quoted isHidden (.inr rfl) [c]

/-- A message stands on one line, whatever character was found. -/
theorem LexicalError.lineFeed_not_mem_message (e : LexicalError) : '\n' ∉ e.message.toList := by
  cases e with
  | expectedQuote found => exact lineFeed_not_mem_append (by decide) found
  | expectedCloseDirective found => exact lineFeed_not_mem_append (by decide) found
  | unexpectedInDirective found => exact lineFeed_not_mem_append (by decide) (some found)
  | unrecognizedInAction found => exact lineFeed_not_mem_append (by decide) (some found)
  | _ => decide

theorem TokenKind.eof_or_error {kind : TokenKind} (h : kind.isTerminal = true) :
    kind = .eof ∨ ∃ e, kind = .error e := by
  cases kind with
  | eof => exact .inl rfl
  | error e => exact .inr ⟨e, rfl⟩
  | _ => cases h

theorem TokenKind.isError_of_isTerminal {kind : TokenKind} (h : kind.isTerminal = false) :
    kind.isError = false := by
  cases kind with
  | error => cases h
  | _ => rfl

/-! ### Listings -/

namespace Listing

variable {format : ListingFormat} {name : String} {ts us : List Token} {out : List Char}

/-- What is printed shows the tokens `ts`: in lines, below a headline with their number, a row for
each of them in order; in JSON, a valid text that is read as them. -/
def Shows (format : ListingFormat) (name : String) (ts : List Token) (out : List Char) : Prop :=
  match format with
  | .lines => out = unlines (title name ts.length :: ts.map (row isHidden))
  | .json => ∃ text, out = text ++ ['\n'] ∧ Json.Valid .value text ∧ read out = some ts

theorem shows_render (format : ListingFormat) (name : String) (ts : List Token) :
    Shows format name ts (render format name ts) := by
  cases format with
  | lines => exact linesWith_eq isHidden name ts
  | json => exact ⟨_, rfl, Json.valid_pretty _ 0, read_json ts⟩

theorem Shows.unique (h : Shows format name ts out) (h' : Shows format name us out) : ts = us := by
  cases format with
  | lines =>
    apply linesWith_injective isHidden name
    rw [linesWith_eq, linesWith_eq]
    exact h.symm.trans h'
  | json =>
    obtain ⟨-, -, -, hread⟩ := h
    obtain ⟨-, -, -, hread'⟩ := h'
    exact Option.some.inj (hread.symm.trans hread')

/-- What is printed shows the tokens that were listed, and no others. -/
theorem shows_iff_of_eq (hout : out = render format name ts) (us : List Token) :
    Shows format name us out ↔ us = ts := by
  have hts : Shows format name ts out := hout ▸ shows_render format name ts
  constructor
  · intro hus
    exact hus.unique hts
  · rintro rfl
    exact hts

end Listing

/-! ### Outcomes -/

namespace Command

variable {name : String} {source : List Char} {ts before : List Token} {t : Token}
  {e : LexicalError} {format : ListingFormat} {config : Config} {o : Outcome}

/-- What a run leaves behind for the tokens `ts` of a template. -/
structure Outcome.Settles (o : Outcome) (format : ListingFormat) (name : String)
    (source : List Char) (ts : List Token) : Prop where
  /-- There is something to list, and all of it is listed, the error included. -/
  ne_nil : ts ≠ []
  shows_iff : ∀ us, Listing.Shows format name us o.stdout ↔ us = ts
  stdout_eq : o.stdout = Listing.render format name ts
  /-- A run succeeds exactly when no token is an error, which is when the last one is the end. -/
  success_iff : o.failure = none ↔ ∀ t ∈ ts, t.kind.isError = false
  success_iff_eof : o.failure = none ↔ ∃ t, ts.getLast? = some t ∧ t.kind = .eof
  success_iff_silent : o.failure = none ↔ o.report = []
  /-- Otherwise it fails with the only error there is, at its place. -/
  failure_eq : o.failure ≠ none → ∃ before t e, ts = before ++ [t] ∧ t.kind = .error e ∧
    (∀ u ∈ before, u.kind.isError = false) ∧
    o.failure = some (.lexical ⟨name, t.offset, .ofOffset source t.offset, e⟩) ∧
    '\n' ∉ ("Error: " ++ e.message).toList ∧
    ∃ more, o.report = ("Error: " ++ e.message).toList ++ '\n' :: more

namespace Outcome.Settles

theorem of_eof (hbefore : ∀ u ∈ before, u.kind.isError = false) (ht : t.kind = .eof)
    (hout : o.stdout = Listing.render format name (before ++ [t])) (hreport : o.report = [])
    (hfailure : o.failure = none) : o.Settles format name source (before ++ [t]) where
  ne_nil := by simp
  shows_iff := Listing.shows_iff_of_eq hout
  stdout_eq := hout
  success_iff := by
    refine iff_of_true hfailure ?_
    intro u hu
    rcases List.mem_append.mp hu with hu | hu
    · exact hbefore u hu
    · rw [List.mem_singleton.mp hu, ht]
      rfl
  success_iff_eof := iff_of_true hfailure ⟨t, by simp, ht⟩
  success_iff_silent := iff_of_true hfailure hreport
  failure_eq := fun h => absurd hfailure h

theorem of_error {more : List Char} (hbefore : ∀ u ∈ before, u.kind.isError = false)
    (ht : t.kind = .error e) (hout : o.stdout = Listing.render format name (before ++ [t]))
    (hreport : o.report = ("Error: " ++ e.message).toList ++ '\n' :: more)
    (hfailure : o.failure = some (.lexical (.ofError name source t.offset e))) :
    o.Settles format name source (before ++ [t]) := by
  have hfails : o.failure ≠ none := by simp [hfailure]
  have hline : '\n' ∉ ("Error: " ++ e.message).toList := by
    rw [String.toList_append, List.mem_append, not_or]
    exact ⟨by decide, e.lineFeed_not_mem_message⟩
  refine ⟨by simp, Listing.shows_iff_of_eq hout, hout, iff_of_false hfails ?_,
    iff_of_false hfails ?_, iff_of_false hfails ?_, ?_⟩
  · intro hall
    have hkind := hall t (by simp)
    rw [ht] at hkind
    cases hkind
  · rintro ⟨u, hu, hkind⟩
    rw [List.getLast?_concat, Option.some.injEq] at hu
    rw [← hu, ht] at hkind
    cases hkind
  · simp [hreport]
  · intro _
    exact ⟨before, t, e, rfl, ht, hbefore, hfailure, hline, more, hreport⟩

end Outcome.Settles

/-! ### Runs -/

theorem collect_eq (mode : ScanMode) (l : Lexer) : collect mode l = l.tokens := by
  cases mode with
  | pull => rfl
  | threaded => exact l.handedOver_eq

/-- The report on an error token, where its span can be computed. -/
theorem exists_report (ht : t.kind = .error e) (name : String) {span : Span}
    (hspan : t.span source = .ok span) :
    ∃ more, t.report? name source =
      .ok (some (("Error: " ++ e.message).toList ++ '\n' :: more)) := by
  refine ⟨unlines (Snippet.body name source span), ?_⟩
  rw [t.report?_eq (Diagnostic.ofToken?_of_error ht name source) hspan]
  simp only [Diagnostic.report, Diagnostic.ofError, unlines, List.flatMap_cons, List.append_assoc,
    List.singleton_append]

theorem runOn_of_eof
    (htokens : (Lexer.ofSource name source config.options).tokens = .ok (before ++ [t]))
    (ht : t.kind = .eof) (hbefore : ∀ u ∈ before, u.kind.isError = false) :
    ∃ o, runOn name source config = .ok o ∧
      o.Settles config.format name source (before ++ [t]) := by
  have hnone : Diagnostic.ofToken? name source t = none := by
    rw [Diagnostic.ofToken?, ht]
    rfl
  refine ⟨{ stdout := Listing.render config.format name (before ++ [t]), config := some config },
    ?_, .of_eof hbefore ht rfl rfl rfl⟩
  rw [runOn, collect_eq, htokens]
  simp only [bind, Except.bind, List.getLast?_concat, hnone]
  rfl

theorem runOn_of_error
    (htokens : (Lexer.ofSource name source config.options).tokens = .ok (before ++ [t]))
    (ht : t.kind = .error e) (hbefore : ∀ u ∈ before, u.kind.isError = false)
    (hbound : t.stop < wordBound) :
    ∃ o, runOn name source config = .ok o ∧
      o.Settles config.format name source (before ++ [t]) := by
  obtain ⟨-, -, span, -, -, hspan, -⟩ := t.exists_span hbound source
  obtain ⟨more, hreport⟩ := exists_report ht name hspan
  refine ⟨{ stdout := Listing.render config.format name (before ++ [t]), config := some config,
            report := ("Error: " ++ e.message).toList ++ '\n' :: more,
            failure := some (.lexical (.ofError name source t.offset e)) },
    ?_, .of_error hbefore ht rfl rfl rfl⟩
  rw [runOn, collect_eq, htokens]
  simp only [bind, Except.bind, List.getLast?_concat, Diagnostic.ofToken?_of_error ht, hreport]
  rfl

theorem runOn_of_overflow
    (htokens : (Lexer.ofSource name source config.options).tokens = .ok (before ++ [t]))
    (ht : t.kind = .error e) (hbound : ¬ t.stop < wordBound) :
    runOn name source config = .error .overflow := by
  rw [runOn, collect_eq, htokens]
  simp only [bind, Except.bind, List.getLast?_concat, Diagnostic.ofToken?_of_error ht,
    Token.report?, Token.span, Token.stopWord, if_neg hbound]

/-- What can be seen of a run: all but the settings. -/
def Outcome.visible (o : Outcome) : List Char × List Char × Option Failure :=
  (o.stdout, o.report, o.failure)

/-- The way to the tokens makes no visible difference. -/
theorem runOn_mode (name : String) (source : List Char) (config : Config) (mode : ScanMode) :
    (runOn name source { config with mode }).map Outcome.visible =
      (runOn name source config).map Outcome.visible := by
  rw [runOn, runOn, collect_eq, collect_eq]
  cases (Lexer.ofSource name source config.options).tokens with
  | error f => rfl
  | ok ts =>
    simp only [bind, Except.bind]
    split
    · rfl
    split
    · rfl
    split <;> rfl

/-- A run on a template has an outcome, except for one with too many parentheses and one that does
not fit into memory. -/
theorem runOn_settles (name : String) (source : List Char) (config : Config) :
    (∃ ts o, (Lexer.ofSource name source config.options).tokens = .ok ts ∧
      runOn name source config = .ok o ∧ o.Settles config.format name source ts) ∨
    runOn name source config = .error .overflow ∧
      (2 ^ 32 ≤ source.count '(' ∨ 2 ^ 64 ≤ size source) := by
  rcases Lexer.tokens_ofSource name source config.options with
    ⟨ts, p, htokens, hrun, hend⟩ | ⟨hover, hcount⟩
  · obtain ⟨before, t, rfl, hterminal, hbefore⟩ := hrun.ended hend
    have hbefore' : ∀ u ∈ before, u.kind.isError = false := fun u hu =>
      TokenKind.isError_of_isTerminal (hbefore u hu)
    rcases TokenKind.eof_or_error hterminal with ht | ⟨e, ht⟩
    · obtain ⟨o, ho, hsettles⟩ := runOn_of_eof htokens ht hbefore'
      exact .inl ⟨_, o, htokens, ho, hsettles⟩
    by_cases hbound : t.stop < wordBound
    · obtain ⟨o, ho, hsettles⟩ := runOn_of_error htokens ht hbefore' hbound
      exact .inl ⟨_, o, htokens, ho, hsettles⟩
    · refine .inr ⟨runOn_of_overflow htokens ht hbound, .inr ?_⟩
      have hstop := hrun.stop_le t (by simp)
      have hsize := congrArg size hrun.source_eq
      simp only [size_append] at hsize
      have hword : wordBound = 2 ^ 64 := rfl
      omega
  · refine .inr ⟨?_, .inl hcount⟩
    rw [runOn, collect_eq, hover]
    rfl

theorem exists_tokens_of_runOn (h : runOn name source config = .ok o) :
    ∃ ts, (Lexer.ofSource name source config.options).tokens = .ok ts ∧
      o.Settles config.format name source ts := by
  rcases runOn_settles name source config with ⟨ts, o', htokens, ho, hsettles⟩ | ⟨hover, -⟩
  · cases h.symm.trans ho
    exact ⟨ts, htokens, hsettles⟩
  · cases h.symm.trans hover

/-- Two runs had the same tokens if what the one has printed shows all that the other one's does. -/
theorem exists_tokens_of_shows {name' : String} {source' : List Char} {config' : Config}
    {o' : Outcome} (ho : runOn name source config = .ok o)
    (ho' : runOn name' source' config' = .ok o')
    (hshows : ∀ ts, Listing.Shows config'.format name' ts o'.stdout →
      Listing.Shows config.format name ts o.stdout) :
    ∃ ts, (Lexer.ofSource name source config.options).tokens = .ok ts ∧
      (Lexer.ofSource name' source' config'.options).tokens = .ok ts := by
  obtain ⟨ts, htokens, hsettles⟩ := exists_tokens_of_runOn ho
  obtain ⟨us, htokens', hsettles'⟩ := exists_tokens_of_runOn ho'
  have hus := hshows us ((hsettles'.shows_iff us).mpr rfl)
  obtain rfl := (hsettles.shows_iff us).mp hus
  exact ⟨us, htokens, htokens'⟩

/-- A run lists all tokens. It succeeds if none of them is an error, and otherwise fails with the
one that is, and reports it. In both modes it leaves the same, and whichever way a scanner and a
consumer are run, both come to their end, the consumer with all tokens: it asks once more than there
are tokens to learn that nothing is left, or any number of times more. -/
theorem runs_settle (name : String) (source : List Char) (config : Config) :
    ((∃ ts o, (Lexer.ofSource name source config.options).tokens = .ok ts ∧
        runOn name source config = .ok o ∧ o.Settles config.format name source ts ∧
        ∀ more, Rendezvous.EndsIn
          ⟨.finished, .gone, ts.map some ++ List.replicate (more + 1) none⟩
          ⟨.scanning (.ofSource name source config.options), .receiving (ts.length + (more + 1)),
            []⟩) ∨
      runOn name source config = .error .overflow ∧
        (2 ^ 32 ≤ source.count '(' ∨ 2 ^ 64 ≤ size source)) ∧
    ∀ mode, (runOn name source { config with mode }).map Outcome.visible =
      (runOn name source config).map Outcome.visible := by
  refine ⟨?_, runOn_mode name source config⟩
  rcases runOn_settles name source config with ⟨ts, o, htokens, ho, hsettles⟩ | hover
  · refine .inl ⟨ts, o, htokens, ho, hsettles, ?_⟩
    intro more
    rw [← Rendezvous.answers_add]
    exact Rendezvous.endsIn_answers htokens _
  · exact .inr hover

end Command

/-! ### Listings of runs -/

open Command

/-- A listing in lines tells the stream, under any choice of the characters that literals hide; so
two runs that list the same under one name had the same tokens. Under a name on one line it has one
line more than there are tokens. -/
theorem lines_tell (hidden : Char → Bool) (name : String) :
    (∀ ts us, Listing.linesWith hidden name ts = Listing.linesWith hidden name us → ts = us) ∧
    ('\n' ∉ name.toList → ∀ ts, ∃ lines, Listing.linesWith hidden name ts = unlines lines ∧
      lines.length = ts.length + 1 ∧ ∀ line ∈ lines, '\n' ∉ line) ∧
    (∀ source source' config config' o o', config.format = .lines → config'.format = .lines →
      runOn name source config = .ok o → runOn name source' config' = .ok o' →
      o.stdout = o'.stdout → ∃ ts,
        (Lexer.ofSource name source config.options).tokens = .ok ts ∧
        (Lexer.ofSource name source' config'.options).tokens = .ok ts) ∧
    ('\n' ∉ name.toList → ∀ source config, config.format = .lines →
      (∃ ts o lines, (Lexer.ofSource name source config.options).tokens = .ok ts ∧
        runOn name source config = .ok o ∧ o.stdout = unlines lines ∧
        lines.length = ts.length + 1 ∧ ∀ line ∈ lines, '\n' ∉ line) ∨
      runOn name source config = .error .overflow ∧
        (2 ^ 32 ≤ source.count '(' ∨ 2 ^ 64 ≤ size source)) := by
  refine ⟨?_, ?_, ?_, ?_⟩
  · intro ts us h
    exact Listing.linesWith_injective hidden name h
  · intro hname ts
    exact Listing.exists_lines hidden hname ts
  · intro source source' config config' o o' hformat hformat' ho ho' hout
    apply exists_tokens_of_shows ho ho'
    rw [hformat, hformat', hout]
    exact fun _ => id
  · intro hname source config hformat
    rcases runOn_settles name source config with ⟨ts, o, htokens, ho, hsettles⟩ | hover
    · obtain ⟨lines, hlines, hlength, hmem⟩ := Listing.exists_lines isHidden hname ts
      refine .inl ⟨ts, o, lines, htokens, ho, ?_, hlength, hmem⟩
      rw [hsettles.stdout_eq, hformat]
      exact hlines
    · exact .inr hover

/-- A run that lists in JSON writes one valid text and a line feed, and what it writes is read as
the tokens of the template; so two runs that write the same had the same tokens. -/
theorem json_tells :
    (∀ name source config, config.format = .json →
      (∃ ts o text, (Lexer.ofSource name source config.options).tokens = .ok ts ∧
        runOn name source config = .ok o ∧ o.stdout = text ++ ['\n'] ∧ Json.Valid .value text ∧
        Listing.read o.stdout = some ts) ∨
      runOn name source config = .error .overflow ∧
        (2 ^ 32 ≤ source.count '(' ∨ 2 ^ 64 ≤ size source)) ∧
    (∀ name name' source source' config config' o o', config.format = .json →
      config'.format = .json → runOn name source config = .ok o →
      runOn name' source' config' = .ok o' → o.stdout = o'.stdout → ∃ ts,
        (Lexer.ofSource name source config.options).tokens = .ok ts ∧
        (Lexer.ofSource name' source' config'.options).tokens = .ok ts) := by
  refine ⟨?_, ?_⟩
  · intro name source config hformat
    rcases runOn_settles name source config with ⟨ts, o, htokens, ho, hsettles⟩ | hover
    · have hshows := (hsettles.shows_iff ts).mpr rfl
      rw [hformat] at hshows
      obtain ⟨text, hout, hvalid, hread⟩ := hshows
      exact .inl ⟨ts, o, text, htokens, ho, hout, hvalid, hread⟩
    · exact .inr hover
  · intro name name' source source' config config' o o' hformat hformat' ho ho' hout
    apply exists_tokens_of_shows ho ho'
    rw [hformat, hformat', hout]
    exact fun _ => id

end TemplateLexer
