import GlyphBook.Proofs.CommandLine.Arguments

/-!
# Command lines encode requests

The written form of a request attaches the path to its option and has the values of a command
behind two dashes, so that no text in it is taken for something else: reading it gives the request
back (`parse_encode`). The requests for which this holds are all that there are: whatever a command
line is, the states in which it is read are fit (`State.Fit`), every step keeps them so, and what is
made of a fit state can be written (`writable_of_parse`).
-/

namespace GlyphBook

/-- A request that can be written: nothing in it is empty that must not be, and its count is not
too large. -/
structure Request.Writable (request : Request) : Prop where
  config : request.config? ≠ some ""
  verbosity : request.verbosity ≤ CommandLine.State.verbosityLimit
  values : ∀ command, request.command? = some command → "" ∉ command.values ∧ command ≠ .which []

namespace CommandLine

open GlobalOption

/-! ## Written requests -/

/-- The options of a written request. -/
def optionsOf (request : Request) : List GlobalOption :=
  (request.config?.map fun path => ⟨0, some path⟩).toList
    ++ List.replicate request.verbosity ⟨1, none⟩

theorem spellsAll_flags (n : Nat) :
    SpellsAll (List.replicate n "-v") (List.replicate n ⟨1, none⟩) := by
  induction n with
  | zero => exact .nil
  | succ n ih => exact .cons (.letters 0) ih

theorem spellsAll_optionsOf (request : Request) :
    SpellsAll ((request.config?.map fun path => "--config=" ++ path).toList
      ++ List.replicate request.verbosity "-v") (optionsOf request) := by
  refine spellsAll_append ?_ (spellsAll_flags request.verbosity)
  cases request.config? with
  | none => exact .nil
  | some path => exact .cons (.longSigned path) .nil

theorem total_flags (n : Nat) : total (List.replicate n ⟨1, none⟩) = n := by
  induction n with
  | zero => rfl
  | succ n ih => rw [List.replicate_succ, total_cons, ih, Nat.add_comm]

theorem given_flags (n : Nat) : given (List.replicate n ⟨1, none⟩) = [] := by
  induction n with
  | zero => rfl
  | succ n ih => exact ih

theorem total_optionsOf (request : Request) : total (optionsOf request) = request.verbosity := by
  have hflags := total_flags request.verbosity
  unfold optionsOf
  cases request.config? with
  | none => exact hflags
  | some path => exact (total_cons _ _).trans ((Nat.zero_add _).trans hflags)

theorem chosen_optionsOf {request : Request} (h : request.config? ≠ some "") :
    chosen (given (optionsOf request)) = .ok request.config? := by
  have hflags := given_flags request.verbosity
  unfold optionsOf
  cases hconfig : request.config? with
  | none =>
      show chosen (given (List.replicate _ _)) = _
      rw [hflags]
      rfl
  | some path =>
      have hpath : path ≠ "" := fun hempty => h (by rw [hconfig, hempty])
      show chosen (path :: given (List.replicate _ _)) = _
      rw [hflags, chosen, if_neg hpath]
      rfl

theorem exists_encode_eq (command : Command) :
    ∃ words, command.encode = command.commandName.name :: words
      ∧ SpellsValues words command.values := by
  cases command with
  | pick => exact ⟨[], rfl, .plain fun _ h => (List.not_mem_nil h).elim⟩
  | list => exact ⟨[], rfl, .plain fun _ h => (List.not_mem_nil h).elim⟩
  | check file => exact ⟨["--", file], rfl, .dashed fun _ h => (List.not_mem_nil h).elim⟩
  | which paths => exact ⟨"--" :: paths, rfl, .dashed fun _ h => (List.not_mem_nil h).elim⟩

/-- Options alone make a request without a command. -/
theorem parse_options {words : List String} {options : List GlobalOption}
    (h : SpellsAll words options) :
    parse words = side options >>= fun s => .ok ⟨s.config?, s.verbosity?.getD 0, none⟩ := by
  have hread := readBefore_readsOptions.read_options h State.open_empty []
  rw [List.append_nil] at hread
  unfold parse
  rw [hread, ← foldlM_settle_side h, bind_assoc, bind_assoc]
  rfl

/-- **Reading what was written gives it back.** -/
theorem parse_encode {request : Request} (h : request.Writable) :
    parse request.encode = .ok request := by
  have hoptions := spellsAll_optionsOf request
  have hchosen := chosen_optionsOf h.config
  have htotal := total_optionsOf request
  have hcount : min State.verbosityLimit request.verbosity = request.verbosity :=
    Nat.min_eq_right h.verbosity
  rw [Request.encode]
  cases hcommand : request.command? with
  | none =>
      have hverbosity : ((State.addFlags request.verbosity {}).verbosity?).getD 0
          = request.verbosity := (verbosity_addFlags request.verbosity 0).trans hcount
      rw [Option.map_none, Option.getD_none, List.append_nil, parse_options hoptions, side_eq,
        hchosen, htotal]
      show Except.ok (Request.mk request.config?
        ((State.addFlags request.verbosity {}).verbosity?.getD 0) none) = _
      rw [hverbosity, ← hcommand]
  | some command =>
      obtain ⟨hnonempty, hwhich⟩ := h.values command hcommand
      obtain ⟨words, hencode, hvalues⟩ := exists_encode_eq command
      have hline := Line.words hoptions .nil hvalues hnonempty hwhich
      rw [Option.map_some, Option.getD_some, hencode]
      refine ((bySide_parse hline).accepted request).mpr ⟨_, none, hchosen, rfl, ?_⟩
      rw [show total [] = 0 from rfl, if_pos rfl, htotal, hcount, ← hcommand]
      rfl

-- Texts that look like options, dashes or commands stay what they are.
example : parse ["--config=-c", "-v", "which", "--", "--", "list", "-v"]
    = .ok ⟨some "-c", 1, some (.which ["--", "list", "-v"])⟩ := rfl

/-! ## Requests that are read -/

/-- What has been read so far can be written. -/
structure State.Fit (s : State) : Prop where
  config : s.config? ≠ some ""
  verbosity : ∀ n, s.verbosity? = some n → n ≤ State.verbosityLimit
  values : "" ∉ s.values

/-- A step leaves a fit state fit. -/
def KeepsFit (step : State → Except Refusal State) : Prop :=
  ∀ s s', s.Fit → step s = .ok s' → s'.Fit

theorem fit_empty : State.Fit {} where
  config := by simp
  verbosity := fun n h => by cases h
  values := List.not_mem_nil

theorem State.Fit.pending {s : State} (hs : s.Fit) (pending : Pending) :
    ({ s with pending } : State).Fit :=
  ⟨hs.config, hs.verbosity, hs.values⟩

theorem State.Fit.dashed {s : State} (hs : s.Fit) :
    ({ s with afterDashes := true } : State).Fit :=
  ⟨hs.config, hs.verbosity, hs.values⟩

namespace KeepsFit

variable {place : Place}

theorem bind {f g : State → Except Refusal State} (hf : KeepsFit f) (hg : KeepsFit g) :
    KeepsFit fun s => f s >>= g := by
  intro s s' hs h
  obtain ⟨t, ht, h⟩ := bind_eq_ok_iff.mp h
  exact hg t s' (hf s t hs ht) h

theorem foldlM {step : State → String → Except Refusal State}
    (h : ∀ word, KeepsFit fun s => step s word) (words : List String) :
    KeepsFit fun s => words.foldlM step s := by
  induction words with
  | nil =>
      intro s s' hs hread
      obtain rfl := Except.ok.inj hread
      exact hs
  | cons word words ih => exact (h word).bind ih

theorem setConfig (path : String) : KeepsFit (State.setConfig path) := by
  intro s s' hs h
  unfold State.setConfig at h
  split at h
  · cases h
  · split at h
    · cases h
    · next hpath =>
        obtain rfl := Except.ok.inj h
        exact ⟨fun hempty => hpath (Option.some.inj hempty), hs.verbosity, hs.values⟩

theorem settle (place : Place) : KeepsFit (State.settle place) := by
  intro s s' hs h
  unfold State.settle at h
  split at h
  · obtain rfl := Except.ok.inj h
    exact hs
  · cases h
  · exact setConfig _ _ _ (hs.pending .nothing) h
  · next words _ =>
      split at h
      · cases h
      · next hwords =>
          obtain rfl := Except.ok.inj h
          refine ⟨hs.config, hs.verbosity, ?_⟩
          rw [List.mem_append, not_or]
          exact ⟨hs.values, fun hmem => hwords (List.contains_iff_mem.mpr hmem)⟩

theorem countVerbose : KeepsFit (State.countVerbose place) := by
  refine (settle place).bind fun s s' hs h => ?_
  obtain rfl := Except.ok.inj h
  refine ⟨hs.config, fun n hn => ?_, hs.values⟩
  rw [← Option.some.inj hn]
  exact Nat.min_le_left _ _

theorem attachConfig (path : String) : KeepsFit (State.attachConfig place path) :=
  (settle place).bind (setConfig path)

theorem awaitConfig : KeepsFit (State.awaitConfig place) := by
  refine (settle place).bind fun s s' hs h => ?_
  obtain rfl := Except.ok.inj h
  exact hs.pending _

theorem readLetters (letters : List Char) : KeepsFit (CommandLine.readLetters place letters) := by
  induction letters with
  | nil =>
      intro s s' hs h
      obtain rfl := Except.ok.inj h
      exact hs
  | cons c rest ih =>
      intro s s' hs h
      unfold CommandLine.readLetters at h
      split at h
      · exact (countVerbose.bind ih) s s' hs h
      · split at h
        · split at h
          · exact awaitConfig s s' hs h
          · exact attachConfig _ s s' hs h
          · exact attachConfig _ s s' hs h
        · split at h
          · exact absurd h stop_ne_ok
          · split at h
            · exact absurd h stop_ne_ok
            · cases h

theorem readLong (name : List Char) (value? : Option String) :
    KeepsFit (CommandLine.readLong place name value?) := by
  intro s s' hs h
  unfold CommandLine.readLong at h
  simp only at h
  split at h
  · split at h
    · exact attachConfig _ s s' hs h
    · exact awaitConfig s s' hs h
  · split at h
    · split at h
      · cases h
      · exact countVerbose s s' hs h
    · split at h
      · split at h
        · cases h
        · exact absurd h stop_ne_ok
      · split at h
        · split at h
          · cases h
          · exact absurd h stop_ne_ok
        · cases h

theorem readValue (command : CommandName) (word : String) :
    KeepsFit (CommandLine.readValue command word) := by
  have hfirst : KeepsFit fun s => s.settle (some command) >>= fun t =>
      .ok { t with pending := .values [word] } := by
    refine (settle (some command)).bind fun s s' hs h => ?_
    obtain rfl := Except.ok.inj h
    exact hs.pending _
  intro s s' hs h
  unfold CommandLine.readValue at h
  cases command with
  | pick => cases h
  | list => cases h
  | check =>
      simp only at h
      split at h
      · cases h
      · cases h
      · exact hfirst s s' hs h
  | which =>
      simp only at h
      split at h
      · obtain rfl := Except.ok.inj h
        exact hs.pending _
      · exact hfirst s s' hs h

theorem optionStep (word : String) :
    KeepsFit fun s => CommandLine.optionStep place s word := by
  intro s s' hs h
  simp only [CommandLine.optionStep] at h
  split at h
  · exact readLong _ _ s s' hs h
  · exact readLetters _ s s' hs h
  · obtain rfl := Except.ok.inj h
    exact hs.pending _

theorem readBehind (command : CommandName) (word : String) :
    KeepsFit fun s => CommandLine.readBehind command s word := by
  intro s s' hs h
  cases hdashes : s.afterDashes with
  | true =>
      simp only [CommandLine.readBehind, hdashes, if_true] at h
      exact readValue command word s s' hs h
  | false =>
      rcases readBehind_cases hdashes h with
        ⟨-, rfl⟩ | ⟨-, hstep⟩ | ⟨-, -, rfl⟩ | ⟨-, hvalue⟩
      · exact hs.dashed
      · exact optionStep word s s' hs hstep
      · exact hs.pending _
      · exact readValue command word s s' hs hvalue

end KeepsFit

theorem fit_of_readCommand {command : CommandName} {words : List String} {behind : State}
    (h : readCommand command words = .ok behind) :
    behind.Fit ∧ ((command = .check ∨ command = .which) → behind.values ≠ []) := by
  unfold readCommand at h
  obtain ⟨t, hread, h⟩ := bind_eq_ok_iff.mp h
  obtain ⟨u, hsettle, h⟩ := bind_eq_ok_iff.mp h
  have ht : t.Fit := KeepsFit.foldlM (KeepsFit.readBehind command) words {} t fit_empty hread
  split at h
  · cases h
  · next hgiven =>
      obtain rfl := Except.ok.inj h
      exact ⟨KeepsFit.settle _ t _ ht hsettle, fun htakes hnone => hgiven ⟨htakes, hnone⟩⟩

theorem fit_of_readBefore {words : List String} {s t : State}
    {found : Option (CommandName × State)} (hs : s.Fit)
    (h : readBefore s words = .ok (t, found)) :
    t.Fit ∧ ∀ command behind, found = some (command, behind) →
      behind.Fit ∧ ((command = .check ∨ command = .which) → behind.values ≠ []) := by
  induction words generalizing s with
  | nil =>
      cases h
      exact ⟨hs, fun command behind hfound => by cases hfound⟩
  | cons word words ih =>
      rcases (readBefore_cases h).2 with hdashed | ⟨-, s', hstep, hlater⟩ | ⟨-, -, hlater⟩
        | ⟨-, command, behind, -, hbehind, hfound⟩
      · exact ih hs.dashed hdashed
      · exact ih (KeepsFit.optionStep word s s' hs hstep) hlater
      · exact ih (hs.pending _) hlater
      · cases hfound
        refine ⟨hs, fun command' behind' hfound => ?_⟩
        cases hfound
        exact fit_of_readCommand hbehind

theorem commandOf_fit {command : CommandName} {values : List String} (hnonempty : "" ∉ values)
    (hgiven : (command = .check ∨ command = .which) → values ≠ []) :
    "" ∉ (commandOf command values).values ∧ commandOf command values ≠ .which [] := by
  cases command with
  | pick => exact ⟨List.not_mem_nil, by simp [commandOf]⟩
  | list => exact ⟨List.not_mem_nil, by simp [commandOf]⟩
  | check =>
      cases values with
      | nil => exact absurd rfl (hgiven (Or.inl rfl))
      | cons file more =>
          refine ⟨fun hempty => hnonempty ?_, by simp [commandOf]⟩
          rw [List.mem_singleton.mp hempty]
          exact List.mem_cons_self
  | which => exact ⟨hnonempty, fun h => hgiven (Or.inr rfl) (Command.which.inj h)⟩

/-- **What is read can be written.** -/
theorem writable_of_parse {words : List String} {request : Request}
    (h : parse words = .ok request) : request.Writable := by
  unfold parse at h
  obtain ⟨⟨s, found⟩, hread, h⟩ := bind_eq_ok_iff.mp h
  obtain ⟨a, ha, h⟩ := bind_eq_ok_iff.mp h
  obtain ⟨hs, hfound⟩ := fit_of_readBefore fit_empty hread
  have hfit : a.Fit := KeepsFit.settle none s a hs ha
  have hcount {verbosity? : Option Nat} (h : ∀ n, verbosity? = some n → n ≤ State.verbosityLimit) :
      verbosity?.getD 0 ≤ State.verbosityLimit := by
    cases verbosity? with
    | none => exact Nat.zero_le _
    | some n => exact h n rfl
  cases found with
  | none =>
      obtain rfl := Except.ok.inj h
      exact ⟨hfit.config, hcount hfit.verbosity, fun command hcommand => by cases hcommand⟩
  | some found =>
      obtain ⟨command, behind⟩ := found
      obtain rfl := Except.ok.inj h
      obtain ⟨hbehind, hgiven⟩ := hfound command behind rfl
      refine ⟨?config, hcount ?count, ?values⟩
      case config =>
        show (behind.config? <|> a.config?) ≠ some ""
        cases hconfig : behind.config? with
        | none => exact hfit.config
        | some path =>
            have hpath := hbehind.config
            rw [hconfig] at hpath
            exact hpath
      case count =>
        intro n hn
        cases hverbosity : behind.verbosity? with
        | none =>
            rw [hverbosity] at hn
            exact hfit.verbosity n hn
        | some m =>
            rw [hverbosity] at hn
            exact hbehind.verbosity n (hverbosity.trans hn)
      case values =>
        intro command' hcommand
        rw [← Option.some.inj hcommand]
        exact commandOf_fit hbehind.values hgiven

/-! ## All requests and all command lines -/

/-- **Command lines encode requests.**

* A request without empty texts, with a count up to the limit, and with a path at least if paths are
  to be shown, is what its written form is read as.
* No other request is read from any command line.
* A command line that is accepted for a command consists of options, the command, and arguments
  whose values the command has, in order and unaltered.
* A command line with arguments whose values are more or fewer than its command needs is an
  error. -/
theorem requests_are_written :
    (∀ request : Request, request.Writable → parse request.encode = .ok request)
      ∧ (∀ words request, parse words = .ok request → request.Writable)
      ∧ (∀ words request command, parse words = .ok request → request.command? = some command →
          ∃ before front after, words = before ++ command.commandName.name :: after
            ∧ SpellsAll before front ∧ Arguments after command.values)
      ∧ (∀ before front after values, ∀ command : CommandName, SpellsAll before front →
          Arguments after values → ¬ Needs command values.length →
          ∃ r, parse (before ++ command.name :: after) = .error r ∧ r.exitCode = 2) := by
  refine ⟨fun _ => parse_encode, fun _ _ => writable_of_parse, fun _ _ _ => arguments_of_parse, ?_⟩
  intro before front after values command hbefore hvalues hnot
  exact (gives_parse hbefore hvalues command).exists_error fun _ h => hnot h.2

end CommandLine

end GlyphBook
