import GlyphBook.Proofs.CommandLine.Reading
import GlyphBook.Verbosity

/-!
# Options on both sides of the command

The options in front of a command and those behind it are read apart, and what is given behind
replaces what is given in front. So a command line is settled by its two sides (`BySide`): it is
accepted if each of them gives one path at most, and then the path and the count are those from
behind, where there are any. One path on each side is no repetition, and counts on two sides are not
added (`sides_are_not_joined`); as long as each kind of option stands on one side only, it does not
matter on which (`parse_of_apart`).
-/

namespace GlyphBook

/-- Levels by how much they let through. -/
def LogLevel.rank : LogLevel → Nat
  | .warn => 0
  | .info => 1
  | .debug => 2
  | .trace => 3

theorem LogLevel.rank_ofVerbosity (n : Nat) : (ofVerbosity n).rank = min n 3 := by
  unfold ofVerbosity
  split
  · rfl
  · rfl
  · rfl
  · next h₀ h₁ h₂ =>
      have hlarge : 3 ≤ n := by
        rcases n with _ | _ | _ | n
        · exact absurd rfl h₀
        · exact absurd rfl h₁
        · exact absurd rfl h₂
        · omega
      exact (Nat.min_eq_right hlarge).symm

namespace CommandLine

open GlobalOption

/-! ## Command lines -/

/-- The words of a command line: options, a command, options, and the values that the command
needs. -/
inductive Line (front behind : List GlobalOption) (command : Command) : List String → Prop where
  | words {before after values : List String} :
      SpellsAll before front → SpellsAll after behind → SpellsValues values command.values →
      "" ∉ command.values → command ≠ .which [] →
      Line front behind command (before ++ command.commandName.name :: (after ++ values))

theorem admits_values (command : Command) :
    Admits command.commandName command.values.length := by
  cases command with
  | pick => rfl
  | list => rfl
  | check file => exact Nat.le_refl 1
  | which paths => trivial

theorem commandOf_values (command : Command) :
    commandOf command.commandName command.values = command := by
  cases command <;> rfl

theorem values_ne_nil {command : Command} (h : command ≠ .which [])
    (htakes : command.commandName = .check ∨ command.commandName = .which) :
    command.values ≠ [] := by
  cases command with
  | pick => exact absurd htakes (by decide)
  | list => exact absurd htakes (by decide)
  | check file => exact List.cons_ne_nil file []
  | which paths =>
      rintro rfl
      exact h rfl

theorem readBefore_name {s : State} (hs : s.Open) (command : CommandName) (rest : List String) :
    readBefore s (command.name :: rest)
      = readCommand command rest >>= fun behind => .ok (s, some (command, behind)) := by
  have hword : Word.of command.name = .plain := by cases command <;> rfl
  have hname : CommandName.ofName? command.name = some command := by cases command <;> rfl
  have hhelp : command.name ≠ "help" := by cases command <;> decide
  rw [readBefore, hs.noDashes, if_neg Bool.false_ne_true]
  simp only [hword, hname, if_neg hhelp, if_neg hs.not_waiting]
  rfl

/-! ## What a side leaves -/

/-- The options of one side, taken one after the other. -/
def side (options : List GlobalOption) : Except Refusal State := options.foldlM takeOption {}

theorem foldlM_settle_side {place : Place} {words : List String} {options : List GlobalOption}
    (h : SpellsAll words options) :
    (words.foldlM (optionStep place) {} >>= State.settle place) = side options := by
  rw [foldlM_settle h State.open_empty, State.settle_of_nothing place rfl, ok_bind, side]

theorem side_eq (options : List GlobalOption) :
    side options = (chosen (given options)).map fun config? =>
      { State.addFlags (total options) {} with config? } :=
  foldlM_take options {}

theorem readCommand_words {command : Command} {behind : List GlobalOption}
    {after values : List String} (hafter : SpellsAll after behind)
    (hvalues : SpellsValues values command.values) (hnonempty : "" ∉ command.values)
    (hwhich : command ≠ .which []) :
    ∃ dashed, readCommand command.commandName (after ++ values) = side behind >>= fun s =>
      .ok { s with values := command.values, afterDashes := dashed } := by
  obtain ⟨dashed, hread⟩ := foldlM_values hvalues (admits_values command) hnonempty
  refine ⟨dashed, ?_⟩
  have hsettled : ((after ++ values).foldlM (readBehind command.commandName) {}
        >>= State.settle (some command.commandName))
      = side behind >>= fun s =>
        .ok { s with values := command.values, afterDashes := dashed } := by
    have hoptions := (readBehind_readsOptions command.commandName).read_options hafter
      State.open_empty values
    rw [hoptions, bind_assoc, ← foldlM_settle_side hafter, bind_assoc]
    exact bind_congr_ok fun s hs => hread s (foldlM_isOpen_all hafter State.open_empty hs)
  unfold readCommand
  rw [← bind_assoc, hsettled, bind_assoc]
  refine bind_congr_ok fun s _ => ?_
  have hgiven : ¬ ((command.commandName = .check ∨ command.commandName = .which)
      ∧ command.values = []) := fun h => values_ne_nil hwhich h.1 h.2
  rw [ok_bind, if_neg hgiven]
  rfl

/-- A line is read side by side; what is still pending in front is settled in the end. -/
theorem exists_parse_eq {front behind : List GlobalOption} {command : Command}
    {words : List String} (h : Line front behind command words) :
    ∃ before : Except Refusal State, (before >>= State.settle none) = side front
      ∧ parse words = before >>= fun s => side behind >>= fun b => s.settle none >>= fun a =>
        .ok ⟨b.config? <|> a.config?, (b.verbosity? <|> a.verbosity?).getD 0, some command⟩ := by
  cases h with
  | @words before after values hbefore hafter hvalues hnonempty hwhich =>
      obtain ⟨dashed, hbehind⟩ := readCommand_words hafter hvalues hnonempty hwhich
      refine ⟨before.foldlM (optionStep none) {}, foldlM_settle_side hbefore, ?_⟩
      unfold parse
      rw [readBefore_readsOptions.read_options hbefore State.open_empty, bind_assoc]
      refine bind_congr_ok fun s hs => ?_
      rw [readBefore_name (foldlM_isOpen_all hbefore State.open_empty hs), hbehind, bind_assoc,
        bind_assoc]
      refine bind_congr_ok fun b _ => ?_
      simp only [ok_bind, commandOf_values]
      rfl

/-! ## Lines are settled by their sides -/

/-- What becomes of a line with these options on its two sides. -/
structure BySide (front behind : List GlobalOption) (command : Command)
    (outcome : Except Refusal Request) : Prop where
  /-- It is accepted if both sides are. What is given behind replaces what is given in front. -/
  accepted : ∀ request, outcome = .ok request ↔ ∃ config? config?',
    chosen (given front) = .ok config? ∧ chosen (given behind) = .ok config?'
      ∧ request = ⟨config?' <|> config?,
        min State.verbosityLimit (if total behind = 0 then total front else total behind),
        some command⟩
  /-- It is refused for what one of the sides is refused for. -/
  refused : ∀ r, outcome = .error r →
    chosen (given front) = .error r ∨ chosen (given behind) = .error r

theorem side_eq_ok_iff {options : List GlobalOption} {s : State} :
    side options = .ok s ↔ ∃ config?, chosen (given options) = .ok config?
      ∧ s = { State.addFlags (total options) {} with config? } := by
  rw [side_eq]
  cases chosen (given options) with
  | error r => simp [Except.map]
  | ok config? => simp [Except.map, eq_comm]

theorem side_eq_error_iff {options : List GlobalOption} {r : Refusal} :
    side options = .error r ↔ chosen (given options) = .error r := by
  rw [side_eq]
  cases chosen (given options) <;> simp [Except.map]

/-- The count of a line is that from behind, if there is one. -/
theorem verbosity_addFlags (n m : Nat) :
    (((State.addFlags m {}).verbosity? <|> (State.addFlags n {}).verbosity?).getD 0)
      = min State.verbosityLimit (if m = 0 then n else m) := by
  unfold State.addFlags
  by_cases hm : m = 0
  · by_cases hn : n = 0
    · simp [hm, hn]
    · simp [hm, hn]
  · simp [hm]

section

variable {before behind : Except Refusal State} {join : State → State → Request}

/-- What is read in front is settled only when the side behind has been read. That is no matter for
a line that is accepted, -/
theorem settle_last_eq_ok_iff {request : Request} :
    (before >>= fun s => behind >>= fun b => s.settle none >>= fun a => .ok (join a b))
        = .ok request ↔
      ∃ a b, (before >>= State.settle none) = .ok a ∧ behind = .ok b ∧ request = join a b := by
  simp only [bind_eq_ok_iff, Except.ok.injEq]
  constructor
  · rintro ⟨s, hs, b, hb, a, ha, rfl⟩
    exact ⟨a, b, ⟨s, hs, ha⟩, hb, rfl⟩
  · rintro ⟨a, b, ⟨s, hs, ha⟩, hb, rfl⟩
    exact ⟨s, hs, b, hb, a, ha, rfl⟩

/-- and a line that is refused is refused for one of its sides. -/
theorem eq_error_of_settle_last {r : Refusal}
    (h : (before >>= fun s => behind >>= fun b => s.settle none >>= fun a => .ok (join a b))
      = .error r) : (before >>= State.settle none) = .error r ∨ behind = .error r := by
  cases before with
  | error r' =>
      obtain rfl : r' = r := Except.error.inj h
      exact Or.inl rfl
  | ok s =>
      cases behind with
      | error r' =>
          obtain rfl : r' = r := Except.error.inj h
          exact Or.inr rfl
      | ok b =>
          simp only [ok_bind] at h ⊢
          cases hs : s.settle none with
          | error r' =>
              rw [hs] at h
              obtain rfl : r' = r := Except.error.inj h
              exact Or.inl rfl
          | ok a =>
              rw [hs] at h
              cases h

end

theorem bySide_parse {front behind : List GlobalOption} {command : Command} {words : List String}
    (h : Line front behind command words) : BySide front behind command (parse words) := by
  obtain ⟨before, hbefore, hparse⟩ := exists_parse_eq h
  -- `before` is what was read in front and is not settled yet; settled, it is the side in front.
  constructor
  · intro request
    rw [hparse, settle_last_eq_ok_iff, hbefore]
    constructor
    · rintro ⟨_, _, ha, hb, rfl⟩
      obtain ⟨config?, hfront, rfl⟩ := side_eq_ok_iff.mp ha
      obtain ⟨config?', hbehind, rfl⟩ := side_eq_ok_iff.mp hb
      exact ⟨config?, config?', hfront, hbehind, by rw [← verbosity_addFlags]⟩
    · rintro ⟨config?, config?', hfront, hbehind, rfl⟩
      refine ⟨_, _, side_eq_ok_iff.mpr ⟨config?, hfront, rfl⟩,
        side_eq_ok_iff.mpr ⟨config?', hbehind, rfl⟩, ?_⟩
      rw [← verbosity_addFlags]
  · intro r herror
    rw [hparse] at herror
    rcases eq_error_of_settle_last herror with hr | hr
    · rw [hbefore] at hr
      exact Or.inl (side_eq_error_iff.mp hr)
    · exact Or.inr (side_eq_error_iff.mp hr)

theorem chosen_append {front behind : List String} (h : front = [] ∨ behind = []) :
    chosen (front ++ behind) = chosen front >>= fun config? =>
      chosen behind >>= fun config?' => .ok (config?' <|> config?) := by
  rcases h with rfl | rfl
  · rw [List.nil_append, chosen, ok_bind]
    cases chosen behind with
    | error r => rfl
    | ok config? => cases config? <;> rfl
  · rw [List.append_nil]
    cases chosen front <;> rfl

/-- With paths on one side only, all paths are chosen from together. -/
theorem BySide.eq_of_paths {front behind : List GlobalOption} {command : Command}
    {outcome : Except Refusal Request} (h : BySide front behind command outcome)
    (hpaths : given front = [] ∨ given behind = []) :
    outcome = (chosen (given front ++ given behind)).map fun config? => ⟨config?,
      min State.verbosityLimit (if total behind = 0 then total front else total behind),
      some command⟩ := by
  rw [chosen_append hpaths]
  cases houtcome : outcome with
  | ok request =>
      obtain ⟨config?, config?', hfront, hbehind, rfl⟩ := (h.accepted request).mp houtcome
      rw [hfront, hbehind]
      rfl
  | error r =>
      rcases h.refused r houtcome with hr | hr
      · rw [hr]
        rfl
      · rcases hpaths with hnone | hnone
        · rw [hnone, hr]
          rfl
        · rw [hnone] at hr
          cases hr

/-! ## One side instead of two -/

/-- Each kind of option stands on one side only. -/
structure Apart (front behind : List GlobalOption) : Prop where
  flags : total front = 0 ∨ total behind = 0
  paths : given front = [] ∨ given behind = []

theorem spellsAll_append {words later : List String} {front behind : List GlobalOption}
    (h : SpellsAll words front) (hlater : SpellsAll later behind) :
    SpellsAll (words ++ later) (front ++ behind) := by
  induction h with
  | nil => exact hlater
  | cons hword _ ih =>
      rw [List.append_assoc]
      exact .cons hword ih

theorem parse_of_apart {front behind : List GlobalOption} {command : Command}
    {words joined : List String} (hapart : Apart front behind)
    (hwords : Line front behind command words)
    (hjoined : Line (front ++ behind) [] command joined) :
    parse words = parse joined := by
  have hpaths : given (front ++ behind) = given front ++ given behind := List.filterMap_append
  have htotal : total (front ++ behind) = total front + total behind := by
    simp only [total, List.map_append, List.sum_append]
  have hcount : (if total behind = 0 then total front else total behind)
      = total front + total behind := by
    rcases hapart.flags with hnone | hnone
    · split <;> omega
    · rw [if_pos hnone, hnone, Nat.add_zero]
  rw [(bySide_parse hwords).eq_of_paths hapart.paths, hcount,
    (bySide_parse hjoined).eq_of_paths (Or.inr rfl), hpaths, htotal]
  rw [show given [] = [] from rfl, List.append_nil]
  rfl

/-! ## Levels -/

/-- Flags that are added on either side raise the level or leave it, unless the first of them comes
behind the command while there are some in front. -/
theorem rank_mono {front behind front' behind' : List GlobalOption} {command command' : Command}
    {words words' : List String} {request request' : Request}
    (hwords : Line front behind command words) (hwords' : Line front' behind' command' words')
    (hrequest : parse words = .ok request) (hrequest' : parse words' = .ok request')
    (hfront : total front ≤ total front') (hbehind : total behind ≤ total behind')
    (hfirst : total behind = 0 → total behind' = 0 ∨ total front = 0) :
    (LogLevel.ofVerbosity request.verbosity).rank
      ≤ (LogLevel.ofVerbosity request'.verbosity).rank := by
  obtain ⟨_, _, _, _, rfl⟩ := ((bySide_parse hwords).accepted request).mp hrequest
  obtain ⟨_, _, _, _, rfl⟩ := ((bySide_parse hwords').accepted request').mp hrequest'
  have hcount : (if total behind = 0 then total front else total behind)
      ≤ (if total behind' = 0 then total front' else total behind') := by
    by_cases hnone : total behind = 0
    · rw [if_pos hnone]
      split
      · exact hfront
      · rcases hfirst hnone with h | h
        · contradiction
        · omega
    · rw [if_neg hnone, if_neg (by omega)]
      exact hbehind
  rw [LogLevel.rank_ofVerbosity, LogLevel.rank_ofVerbosity]
  show min (min State.verbosityLimit _) 3 ≤ min (min State.verbosityLimit _) 3
  omega

/-! ## All command lines -/

/-- A line is settled by its two sides, they may be joined where no kind of option stands on both,
and more flags never make less known, unless they replace others. -/
theorem options_by_side :
    (∀ {front behind : List GlobalOption} {command : Command} {words : List String},
      Line front behind command words → BySide front behind command (parse words))
    ∧ (∀ {front behind : List GlobalOption} {command : Command} {before after values : List String},
      SpellsAll before front → SpellsAll after behind → SpellsValues values command.values →
      "" ∉ command.values → command ≠ .which [] → Apart front behind →
      parse (before ++ command.commandName.name :: (after ++ values))
        = parse (before ++ after ++ command.commandName.name :: values))
    ∧ (∀ {front behind front' behind' : List GlobalOption} {command command' : Command}
      {words words' : List String} {request request' : Request},
      Line front behind command words → Line front' behind' command' words' →
      parse words = .ok request → parse words' = .ok request' →
      total front ≤ total front' → total behind ≤ total behind' →
      (total behind = 0 → total behind' = 0 ∨ total front = 0) →
      (LogLevel.ofVerbosity request.verbosity).rank
        ≤ (LogLevel.ofVerbosity request'.verbosity).rank) := by
  refine ⟨bySide_parse, ?_, rank_mono⟩
  intro front behind command before after values hbefore hafter hvalues hnonempty hwhich hapart
  exact parse_of_apart hapart (.words hbefore hafter hvalues hnonempty hwhich)
    (.words (spellsAll_append hbefore hafter) .nil hvalues hnonempty hwhich)

/-- Counts on two sides are not added, and a path on each side is no repetition. -/
theorem sides_are_not_joined :
    parse ["-v", "list", "-vv"] = .ok ⟨none, 2, some .list⟩
    ∧ parse ["-v", "-vv", "list"] = .ok ⟨none, 3, some .list⟩
    ∧ parse ["-c", "a", "list", "-c", "b"] = .ok ⟨some "b", 0, some .list⟩
    ∧ parse ["-c", "a", "-c", "b", "list"] = .error .repeatedConfig :=
  ⟨rfl, rfl, rfl, rfl⟩

end CommandLine

end GlyphBook
