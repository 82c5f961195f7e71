import TemplateLexer.Proofs.Json.Skipping
import TemplateLexer.Proofs.Outcomes

/-!
# Options files

An options file is a record whose members give parts of options or mean nothing, in any order, with
white space and escapes wherever they may stand (`Options.File`). Reading it comes down to adding
its members to a draft, one after the other (`Options.Members.read`), so that neither their order
nor what stands between them can matter. `parts_settled` puts this together with what the command
line gives and with the defaults, part by part, up to what a run with these parts leaves behind.
-/

namespace TemplateLexer

open Json (Blanks Lexeme StandsFor Stops Valid memberText)

namespace Options

/-! ### Members -/

/-- A part of options. -/
def part (o : Options) : Field → List Char
  | .marker => o.marker
  | .left => o.left
  | .right => o.right

/-- A member of an options file. -/
inductive Member where
  /-- It gives a part. -/
  | known (field : Field) (text : List Char)
  /-- It has another name, and means nothing. -/
  | other

namespace Member

/-- The part that a member gives. -/
def field? : Member → Option Field
  | known field _ => some field
  | other => none

/-- The text that a member gives to a part. -/
def text? (m : Member) (field : Field) : Option (List Char) :=
  match m with
  | known field' text => if field' = field then some text else none
  | other => none

/-- A text of a member. -/
inductive Written : Member → List Char → Prop
  | known {field : Field} {text key before after body : List Char} :
      StandsFor key field.key.toList → Blanks before → Blanks after → StandsFor body text →
      Written (.known field text) (memberText key before after ('"' :: (body ++ ['"'])))
  | other {name key before after value : List Char} : StandsFor key name →
      (∀ field : Field, field.key.toList ≠ name) → Blanks before → Blanks after →
      Valid .value value → Written .other (memberText key before after value)

end Member

/-- Strings as they are printed are one way to write a member. -/
theorem Member.written_quoted (field : Field) (text : List Char) :
    (known field text).Written (Json.quoted field.key.toList ++ ':' :: Json.quoted text) := by
  have h := Written.known (Json.standsFor_flatMap_escape field.key.toList) Json.blanks_nil
    Json.blanks_nil (Json.standsFor_flatMap_escape text)
  simpa [Json.quoted, memberText] using h

/-- The text that members give to a part. -/
def given (ms : List Member) (field : Field) : Option (List Char) := ms.findSome? (·.text? field)

/-- No part is given twice. -/
def Distinct (ms : List Member) : Prop := (ms.filterMap Member.field?).Nodup

/-- A text of one member or more. -/
inductive Members : List Member → List Char → Prop
  | last {m : Member} {b cs b' : List Char} : Blanks b → m.Written cs → Blanks b' →
      Members [m] (b ++ (cs ++ b'))
  | cons {m : Member} {ms : List Member} {b cs b' more : List Char} : Blanks b → m.Written cs →
      Blanks b' → Members ms more → Members (m :: ms) (b ++ (cs ++ (b' ++ ',' :: more)))

/-- A text of an options file. -/
inductive File : List Member → List Char → Prop
  | empty {b gap b' : List Char} : Blanks b → Blanks gap → Blanks b' →
      File [] (b ++ '\x7b' :: (gap ++ '\x7d' :: b'))
  | members {ms : List Member} {b cs b' : List Char} : Blanks b → Members ms cs → Blanks b' →
      File ms (b ++ '\x7b' :: (cs ++ '\x7d' :: b'))

variable {m : Member} {ms : List Member} {cs rest : List Char} {field : Field} {d : Draft}

theorem isSome_given (h : field ∈ ms.filterMap Member.field?) : (given ms field).isSome = true := by
  obtain ⟨m, hm, hfield⟩ := List.mem_filterMap.mp h
  rw [given, List.findSome?_isSome_iff]
  refine ⟨m, hm, ?_⟩
  cases m with
  | known field' text =>
    cases hfield
    simp [Member.text?]
  | other => cases hfield

/-! ### Drafts -/

namespace Draft

/-- Adds what a member gives; it must not be given already. -/
def add (d : Draft) : Member → Except DecodeError Draft
  | .known field text =>
    if (d.get? field).isSome then .error .mistyped else .ok (d.set field text)
  | .other => .ok d

theorem get?_empty (field : Field) : ({} : Draft).get? field = none := by
  cases field <;> rfl

theorem get?_set (d : Draft) (field field' : Field) (text : List Char) :
    (d.set field text).get? field' = if field = field' then some text else d.get? field' := by
  cases field <;> cases field' <;> rfl

theorem part_fillFrom (d : Draft) (base : Options) (field : Field) :
    (d.fillFrom base).part field = (d.get? field).getD (base.part field) := by
  cases field <;> rfl

/-- Members that give different parts, none of which was given, can all be added. -/
theorem foldlM_add (hms : Distinct ms)
    (hd : ∀ field ∈ ms.filterMap Member.field?, d.get? field = none) :
    ∃ d', ms.foldlM add d = .ok d' ∧
      ∀ field, d'.get? field = (d.get? field).or (given ms field) := by
  induction ms generalizing d with
  | nil => exact ⟨d, rfl, fun field => by simp [given]⟩
  | cons m ms ih =>
    cases m with
    | other => exact ih hms hd
    | known field text =>
      obtain ⟨hfield, hms⟩ := List.nodup_cons.mp hms
      have hnone : d.get? field = none := hd field List.mem_cons_self
      have hset : ∀ field' ∈ ms.filterMap Member.field?,
          (d.set field text).get? field' = none := by
        intro field' hmem
        rw [get?_set, if_neg (by rintro rfl; exact hfield hmem)]
        exact hd field' (List.mem_cons_of_mem _ hmem)
      obtain ⟨d', hfold, hget⟩ := ih hms hset
      refine ⟨d', ?_, ?_⟩
      · rw [List.foldlM_cons, add, hnone]
        exact hfold
      · intro field'
        rw [hget, get?_set]
        by_cases heq : field = field'
        · subst heq
          simp [given, Member.text?, hnone]
        · simp [given, Member.text?, heq]

/-- A part that is given twice is refused. -/
theorem foldlM_add_error
    (h : ¬ Distinct ms ∨ ∃ field ∈ ms.filterMap Member.field?, d.get? field ≠ none) :
    ms.foldlM add d = .error .mistyped := by
  induction ms generalizing d with
  | nil =>
    rcases h with h | ⟨field, hmem, -⟩
    · exact absurd List.nodup_nil h
    · cases hmem
  | cons m ms ih =>
    cases m with
    | other => exact ih h
    | known field text =>
      rw [List.foldlM_cons, add]
      by_cases hget : d.get? field = none
      · rw [hget]
        refine ih ?_
        rcases h with h | ⟨field', hmem, hne⟩
        · by_cases hfield : field ∈ ms.filterMap Member.field?
          · exact .inr ⟨field, hfield, by simp [get?_set]⟩
          · exact .inl fun hms => h (List.nodup_cons.mpr ⟨hfield, hms⟩)
        · rcases List.mem_cons.mp hmem with rfl | hmem
          · exact absurd hget hne
          · refine .inr ⟨field', hmem, ?_⟩
            rw [get?_set]
            split
            · simp
            · exact hne
      · rw [if_pos (Option.isSome_iff_ne_none.mpr hget)]
        rfl

end Draft

/-! ### Reading -/

theorem foldlM_readLexeme_cons {s s' : Phase × Draft} {x : Lexeme} {xs : List Lexeme}
    (h : readLexeme s x = .ok s') : (x :: xs).foldlM readLexeme s = xs.foldlM readLexeme s' := by
  rw [List.foldlM_cons, h]
  rfl

/-- Where reading stands when a value is passed over; behind it if that is done. -/
def Phase.ofSkip : Option Json.Skip → Phase
  | some s => .skipping s
  | none => .recordNext

theorem foldlM_readLexeme_passes {s t : Option Json.Skip} {xs ys : List Lexeme}
    (h : Json.Skip.Passes s xs t ys) (d : Draft) :
    xs.foldlM readLexeme (.ofSkip s, d) = ys.foldlM readLexeme (.ofSkip t, d) := by
  induction h with
  | refl => rfl
  | @step s s' t x xs ys hstep _ ih =>
    have hread : readLexeme (.skipping s, d) x = .ok (.ofSkip s', d) := by
      rw [readLexeme, hstep]
      cases s' <;> rfl
    exact (foldlM_readLexeme_cons hread).trans ih

theorem ofKey?_key (field : Field) : Field.ofKey? field.key.toList = some field := by
  cases field <;> decide

theorem ofKey?_eq_none {name : List Char} (h : ∀ field : Field, field.key.toList ≠ name) :
    Field.ofKey? name = none := by
  rw [Field.ofKey?, List.find?_eq_none]
  intro field _
  simpa using h field

/-- A key may stand here. -/
def Phase.AtKey (phase : Phase) : Prop := phase = .recordOpen ∨ phase = .recordKey

theorem Phase.AtKey.readLexeme_text {phase : Phase} (h : phase.AtKey) (d : Draft)
    (exact : Except Json.Failure (List Char)) (loose : Except Json.Failure Unit) :
    readLexeme (phase, d) (.text exact loose) = readKey d (.text exact loose) := by
  rcases h with rfl | rfl <;> rfl

theorem mapError_ok {ε ε' α : Type} (f : ε → ε') (a : α) :
    (Except.ok a : Except ε α).mapError f = .ok a := rfl

theorem readKey_known (d : Draft) (field : Field) (loose : Except Json.Failure Unit) :
    readKey d (.text (.ok field.key.toList) loose) =
      if (d.get? field).isSome then .error .mistyped else .ok (.colon (some field), d) := by
  rw [readKey, mapError_ok]
  simp only [bind, Except.bind, ofKey?_key]
  rfl

theorem readKey_other {name : List Char} (h : ∀ field : Field, field.key.toList ≠ name)
    (d : Draft) (loose : Except Json.Failure Unit) :
    readKey d (.text (.ok name) loose) = .ok (.colon none, d) := by
  rw [readKey, mapError_ok]
  simp only [bind, Except.bind, ofKey?_eq_none h]
  rfl

/-- Reading a member is adding it. -/
theorem Member.Written.read (h : m.Written cs) {phase : Phase} (hphase : phase.AtKey) (d : Draft)
    (hrest : Stops rest) :
    (Lexeme.scan (cs ++ rest)).foldlM readLexeme (phase, d) =
      d.add m >>= fun d' => (Lexeme.scan rest).foldlM readLexeme (.recordNext, d') := by
  cases h with
  | @known field text _ _ _ _ hkey hbefore hafter hbody =>
    have hcolon : readLexeme (.colon (some field), d) (.mark ':') = .ok (.value field, d) := rfl
    have htext : readLexeme (.value field, d) (.text (.ok text) (.ok ())) =
        .ok (.recordNext, d.set field text) := rfl
    simp only [memberText, List.cons_append, List.append_assoc, List.nil_append]
    rw [Lexeme.scan_standsFor hkey, Lexeme.scan_blanks hbefore, Lexeme.scan_mark (by decide),
      Lexeme.scan_blanks hafter, Lexeme.scan_standsFor hbody, List.foldlM_cons,
      hphase.readLexeme_text, readKey_known, Draft.add]
    split
    · rfl
    · exact (foldlM_readLexeme_cons hcolon).trans (foldlM_readLexeme_cons htext)
  | other hkey hname hbefore hafter hvalue =>
    have hpasses : Json.Skip.Passes (some .start) _ none _ := hvalue.passes (.inl rfl) hrest
    have hcolon : readLexeme (.colon none, d) (.mark ':') = .ok (.skipping .start, d) := rfl
    simp only [memberText, List.cons_append, List.append_assoc]
    rw [Lexeme.scan_standsFor hkey, Lexeme.scan_blanks hbefore, Lexeme.scan_mark (by decide),
      Lexeme.scan_blanks hafter, foldlM_readLexeme_cons ((hphase.readLexeme_text _ _ _).trans
        (readKey_other hname d _)), foldlM_readLexeme_cons hcolon]
    exact foldlM_readLexeme_passes hpasses d

/-- Reading members is adding them one after the other. -/
theorem Members.read (h : Members ms cs) {phase : Phase} (hphase : phase.AtKey) (d : Draft)
    (hrest : Stops rest) :
    (Lexeme.scan (cs ++ rest)).foldlM readLexeme (phase, d) =
      ms.foldlM Draft.add d >>= fun d' =>
        (Lexeme.scan rest).foldlM readLexeme (.recordNext, d') := by
  induction h generalizing phase d with
  | last hb hm hb' =>
    simp only [List.append_assoc]
    rw [Lexeme.scan_blanks hb, hm.read hphase d (hb'.stops hrest), Lexeme.scan_blanks hb']
    simp only [List.foldlM_cons, List.foldlM_nil, bind_pure]
  | cons hb hm hb' _ ih =>
    simp only [List.append_assoc, List.cons_append]
    rw [Lexeme.scan_blanks hb, hm.read hphase d (hb'.stops (Json.stops_mark (by decide) _)),
      Lexeme.scan_blanks hb', Lexeme.scan_mark (by decide), List.foldlM_cons, bind_assoc]
    congr 1
    funext d'
    have hcomma : readLexeme (.recordNext, d') (.mark ',') = .ok (.recordKey, d') := rfl
    rw [foldlM_readLexeme_cons hcomma]
    exact ih (.inr rfl) d'

theorem foldlM_readLexeme_end {b : List Char} (h : Blanks b) (d : Draft) :
    (Lexeme.scan b).foldlM readLexeme (.done, d) = .ok (.done, d) := by
  rw [← List.append_nil b, Lexeme.scan_blanks h, Lexeme.scan_nil]
  rfl

/-- The members of a file are added to an empty draft. -/
theorem File.decodeDraft_eq (h : File ms cs) : decodeDraft cs = ms.foldlM Draft.add {} := by
  have hopen : readLexeme (.start, {}) (.mark '\x7b') = .ok (.recordOpen, {}) := rfl
  rw [decodeDraft]
  cases h with
  | empty hb hgap hb' =>
    have hclose : readLexeme (.recordOpen, {}) (.mark '\x7d') = .ok (.done, {}) := rfl
    rw [Lexeme.scan_blanks hb, Lexeme.scan_mark (by decide), foldlM_readLexeme_cons hopen,
      Lexeme.scan_blanks hgap, Lexeme.scan_mark (by decide), foldlM_readLexeme_cons hclose,
      foldlM_readLexeme_end hb']
    rfl
  | members hb hms hb' =>
    rw [Lexeme.scan_blanks hb, Lexeme.scan_mark (by decide), foldlM_readLexeme_cons hopen,
      hms.read (.inl rfl) {} (Json.stops_mark (by decide) _), bind_assoc]
    cases ms.foldlM Draft.add {} with
    | error e => rfl
    | ok d =>
      have hclose : readLexeme (.recordNext, d) (.mark '\x7d') = .ok (.done, d) := rfl
      simp only [bind, Except.bind]
      rw [Lexeme.scan_mark (by decide), foldlM_readLexeme_cons hclose, foldlM_readLexeme_end hb']
      rfl

/-- A key that occurs a second time is refused as soon as it is read. -/
theorem Members.decode_repeated {b b' key : List Char} (h : Members ms cs)
    (hb : Blanks b) (hb' : Blanks b') (hfield : field ∈ ms.filterMap Member.field?)
    (hkey : StandsFor key field.key.toList) (rest : List Char) :
    decode (b ++ '\x7b' :: (cs ++ ',' :: (b' ++ '"' :: (key ++ '"' :: rest)))) =
      .error .mistyped := by
  have hopen : readLexeme (.start, {}) (.mark '\x7b') = .ok (.recordOpen, {}) := rfl
  have hread : ms.foldlM Draft.add {} >>= (fun d =>
      (Lexeme.scan (',' :: (b' ++ '"' :: (key ++ '"' :: rest)))).foldlM readLexeme
        (.recordNext, d)) = .error .mistyped := by
    -- If the members already repeat a part, reading does not even get to the second key.
    by_cases hms : Distinct ms
    · obtain ⟨d, hfold, hget⟩ := Draft.foldlM_add hms fun field _ => Draft.get?_empty field
      have hcomma : readLexeme (.recordNext, d) (.mark ',') = .ok (.recordKey, d) := rfl
      have hsome : (d.get? field).isSome = true := by
        rw [hget, Option.isSome_or, isSome_given hfield, Bool.or_true]
      rw [hfold]
      simp only [bind, Except.bind]
      rw [Lexeme.scan_mark (by decide), foldlM_readLexeme_cons hcomma, Lexeme.scan_blanks hb',
        Lexeme.scan_standsFor hkey, List.foldlM_cons, Phase.AtKey.readLexeme_text (.inr rfl),
        readKey_known, if_pos hsome]
      rfl
    · rw [Draft.foldlM_add_error (.inl hms)]
      rfl
  rw [decode, decodeDraft, Lexeme.scan_blanks hb, Lexeme.scan_mark (by decide),
    foldlM_readLexeme_cons hopen, h.read (.inl rfl) {} (Json.stops_mark (by decide) _), hread]
  rfl

theorem File.decode_eq (h : File ms cs) (hms : Distinct ms) :
    ∃ o, decode cs = .ok o ∧
      ∀ field, o.part field = (given ms field).getD (default.part field) := by
  obtain ⟨d, hfold, hget⟩ := Draft.foldlM_add hms fun field _ => Draft.get?_empty field
  refine ⟨d.fillFrom default, ?_, ?_⟩
  · rw [decode, h.decodeDraft_eq, hfold]
    rfl
  · intro field
    rw [Draft.part_fillFrom, hget, Draft.get?_empty, Option.none_or]

theorem File.decode_error (h : File ms cs) (hms : ¬ Distinct ms) :
    decode cs = .error .mistyped := by
  rw [decode, h.decodeDraft_eq, Draft.foldlM_add_error (.inl hms)]
  rfl

end Options

/-! ### Settled parts -/

open Options Command

/-- A marker or delimiter of a lexer. -/
def Delimiters.part (delims : Delimiters) : Field → List Char
  | .marker => delims.marker
  | .left => delims.left
  | .right => delims.right

theorem Options.part_normalized (o : Options) (field : Field) :
    o.normalized.part field = orElse (Options.default.part field) (o.part field) := by
  cases field <;> rfl

namespace Command.Invocation

/-- What the command line gives to a part. -/
def flag? (i : Invocation) : Field → Option String
  | .marker => i.marker
  | .left => i.left
  | .right => i.right

theorem get?_draft (i : Invocation) (field : Field) :
    i.draft.get? field = (i.flag? field).map String.toList := by
  cases field <;> rfl

/-- The options file, if the command line names one, has these members. -/
def Reads (i : Invocation) (read : String → Except ReadError (List Char)) (ms : List Member) :
    Prop :=
  match i.options with
  | none => ms = []
  | some path => ∃ cs, read path = .ok cs ∧ File ms cs

theorem Reads.fileOptions_eq {i : Invocation} {read : String → Except ReadError (List Char)}
    {ms : List Member} (h : i.Reads read ms) (hms : Distinct ms) :
    ∃ o, i.fileOptions read = .ok o ∧
      ∀ field, o.part field = (given ms field).getD (Options.default.part field) := by
  cases hoptions : i.options with
  | none =>
    simp only [Reads, hoptions] at h
    subst h
    exact ⟨Options.default, by simp only [fileOptions, hoptions], fun _ => rfl⟩
  | some path =>
    simp only [Reads, hoptions] at h
    obtain ⟨cs, hread, hfile⟩ := h
    obtain ⟨o, hdecode, hpart⟩ := hfile.decode_eq hms
    refine ⟨o, ?_, hpart⟩
    simp only [fileOptions, hoptions, hread, mapError_ok, bind, Except.bind, hdecode]

end Command.Invocation

/-- An options file gives the parts that it names, once each, and a key that occurs a second time
makes it unreadable, whatever follows. Each part of the lexer is what the command line gives, or
else the options file, or else the default, which also stands for an empty text; and the run leaves
behind what it does for the tokens of this lexer. -/
theorem parts_settled :
    (∀ ms cs, File ms cs → Distinct ms → ∃ o, decode cs = .ok o ∧
      ∀ field, o.part field = (given ms field).getD (Options.default.part field)) ∧
    (∀ ms cs, File ms cs → ¬ Distinct ms → decode cs = .error .mistyped) ∧
    (∀ ms cs b b' field key rest, Blanks b → Members ms cs → field ∈ ms.filterMap Member.field? →
      Blanks b' → StandsFor key (Field.key field).toList →
      decode (b ++ '\x7b' :: (cs ++ ',' :: (b' ++ '"' :: (key ++ '"' :: rest)))) =
        .error .mistyped) ∧
    ∀ (i : Invocation) read ms, i.Reads read ms → Distinct ms →
      ∃ config, i.config read = .ok config ∧
        ∀ source, read i.file = .ok source → run i read = runOn i.file source config ∧
          (∀ field, (Lexer.ofSource i.file source config.options).delims.part field =
            orElse (Options.default.part field)
              ((((i.flag? field).map String.toList).or (given ms field)).getD
                (Options.default.part field))) ∧
          ((∃ ts o, (Lexer.ofSource i.file source config.options).tokens = .ok ts ∧
              run i read = .ok o ∧ o.Settles config.format i.file source ts) ∨
            run i read = .error .overflow ∧
              (2 ^ 32 ≤ source.count '(' ∨ 2 ^ 64 ≤ Text.size source)) := by
  refine ⟨?_, ?_, ?_, ?_⟩
  · intro ms cs h hms
    exact h.decode_eq hms
  · intro ms cs h hms
    exact h.decode_error hms
  · intro ms cs b b' field key rest hb h hfield hb' hkey
    exact h.decode_repeated hb hb' hfield hkey rest
  · intro i read ms h hms
    obtain ⟨o, ho, hpart⟩ := h.fileOptions_eq hms
    obtain ⟨config, hconfig, hoptions⟩ : ∃ config, i.config read = .ok config ∧
        config.options = i.draft.fillFrom o := ⟨_, by rw [Invocation.config, ho]; rfl, rfl⟩
    refine ⟨config, hconfig, ?_⟩
    intro source hsource
    have hrun : run i read = runOn i.file source config := by
      simp only [run, hconfig, hsource]
    refine ⟨hrun, ?_, ?_⟩
    · intro field
      rw [Lexer.ofSource, hoptions, part_normalized, Draft.part_fillFrom, Invocation.get?_draft,
        hpart]
      cases i.flag? field <;> rfl
    · rw [hrun]
      exact runOn_settles i.file source config

/-- A template, and an options file that has a known key inside of another member and an escaped
one. -/
def escapedFiles (path : String) : Except ReadError (List Char) :=
  .ok (if path = "o" then
    ("\x7b\"n\":[0,\x7b\"left_delim\":1\x7d],\"\\u006ceft_delim\": \"<%\"," ++
      "\"right_delim\":\"%>\"\x7d").toList
  else ['<', '%'])

/-- A command line that names both and gives two parts itself, an empty one among them. -/
def escapedInvocation : Invocation where
  tree := false
  json := false
  threaded := false
  file := "t"
  options := some "o"
  marker := some "#"
  left := none
  right := some ""

/-- A known key inside of another member means nothing, one that is escaped means the same, and a
text from the command line wins even if it is empty. The run lists the tokens that the template has
with these parts. -/
theorem parts_settled_escaped :
    ∃ config ts o, escapedInvocation.config escapedFiles = .ok config ∧
      (Lexer.ofSource "t" ['<', '%'] config.options).delims.part .marker = ['#'] ∧
      (Lexer.ofSource "t" ['<', '%'] config.options).delims.part .left = ['<', '%'] ∧
      (Lexer.ofSource "t" ['<', '%'] config.options).delims.part .right = ['\x7d', '\x7d'] ∧
      (Lexer.ofSource "t" ['<', '%'] config.options).tokens = .ok ts ∧
      run escapedInvocation escapedFiles = .ok o ∧
      o.Settles config.format "t" ['<', '%'] ts := by
  have hno : Blanks [] := Json.blanks_nil
  have hinner := Valid.lastMember hno
    (Json.standsFor_flatMap_escape "left_delim".toList).stringBody hno hno
    (.number (Json.isNumber_toDigits 1)) hno
  have hvalue := Valid.list (.item hno (.number (Json.isNumber_toDigits 0)) hno
    (.lastItem hno (.record hinner) hno))
  have hother := Member.Written.other (Json.standsFor_flatMap_escape ['n'])
    (by intro field; cases field <;> decide) hno hno hvalue
  have hdigits : Json.HexNumber ['0', '0', '6', 'c'] 'l'.toNat := by
    have hdigit : ∀ n < 16, Json.HexDigit (Nat.digitChar n) n := fun _ => Json.hexDigit_digitChar
    exact .mk (hdigit 0 (by decide)) (hdigit 0 (by decide)) (hdigit 6 (by decide))
      (hdigit 12 (by decide))
  have hkey : StandsFor _ (Field.key .left).toList :=
    .unit hdigits (Json.standsFor_flatMap_escape "eft_delim".toList)
  have hleft := Member.Written.known hkey hno Json.blanks_space
    (Json.standsFor_flatMap_escape ['<', '%'])
  have hright := Member.written_quoted .right ['%', '>']
  have hfile := File.members hno (.cons hno hother hno (.cons hno hleft hno (.last hno hright hno)))
    hno
  have hdistinct : List.Nodup [Field.left, Field.right] := by simp
  obtain ⟨config, hconfig, hparts⟩ := parts_settled.2.2.2 escapedInvocation escapedFiles _
    ⟨_, rfl, hfile⟩ hdistinct
  obtain ⟨-, hpart, hrun⟩ := hparts ['<', '%'] rfl
  rcases hrun with ⟨ts, o, htokens, ho, hsettles⟩ | ⟨-, hlarge⟩
  · exact ⟨config, ts, o, hconfig, hpart .marker, hpart .left, hpart .right, htokens, ho, hsettles⟩
  · exact absurd hlarge (by decide)

end TemplateLexer
