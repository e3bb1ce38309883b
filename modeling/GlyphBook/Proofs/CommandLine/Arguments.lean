import GlyphBook.Proofs.CommandLine.Sides

/-!
# Values among options

Behind a command its values may stand before, between and behind the options (`Arguments`). A value
waits until the next option settles it, so the values read so far are partly settled and partly
pending (`State.taken`). Options leave them as they are, a value is added at their end or refused,
and so a command that is accepted has been given just the values of its arguments, and as many as it
needs (`gives_parse`). In the other direction, a command line that is accepted at all consists of
options, a command and arguments (`arguments_of_parse`).
-/

namespace GlyphBook

namespace CommandLine

open GlobalOption

/-! ## Outcomes -/

/-- The outcome has a property, unless it is an error; an answer it is not. -/
inductive Gives {α : Type} (P : α → Prop) : Except Refusal α → Prop where
  | accepted {a : α} : P a → Gives P (.ok a)
  | refused {r : Refusal} : r.exitCode = 2 → Gives P (.error r)

namespace Gives

variable {α β : Type} {P : α → Prop} {Q : β → Prop} {outcome : Except Refusal α}

theorem of_ok {a : α} (h : Gives P (.ok a)) : P a := by
  cases h with
  | accepted ha => exact ha

theorem bind {f : α → Except Refusal β} (h : Gives P outcome)
    (hf : ∀ a, outcome = .ok a → P a → Gives Q (f a)) : Gives Q (outcome >>= f) := by
  cases h with
  | accepted ha => exact hf _ rfl ha
  | refused hr => exact .refused hr

theorem imp {P' : α → Prop} (h : Gives P outcome) (himp : ∀ a, P a → P' a) : Gives P' outcome := by
  cases h with
  | accepted ha => exact .accepted (himp _ ha)
  | refused hr => exact .refused hr

/-- What cannot be had is refused. -/
theorem exists_error (h : Gives P outcome) (hnot : ∀ a, ¬ P a) :
    ∃ r : Refusal, outcome = .error r ∧ r.exitCode = 2 := by
  cases h with
  | accepted ha => exact absurd ha (hnot _)
  | @refused r hr => exact ⟨r, rfl, hr⟩

end Gives

/-! ## Arguments -/

/-- The words behind a command and the values among them: options and values in any order, and
behind two dashes values only. -/
inductive Arguments : List String → List String → Prop where
  | nil : Arguments [] []
  | option {words later values : List String} {option : GlobalOption} :
      Spells words option → Arguments later values → Arguments (words ++ later) values
  | value {value : String} {later values : List String} :
      IsPlain value → Arguments later values → Arguments (value :: later) (value :: values)
  | dashes (values : List String) : Arguments ("--" :: values) values

/-- A command needs so many values. -/
def Needs (command : CommandName) (n : Nat) : Prop :=
  match command with
  | .pick => n = 0
  | .list => n = 0
  | .check => n = 1
  | .which => n ≠ 0

theorem needs_iff {command : CommandName} {n : Nat} :
    Needs command n ↔ Admits command n ∧ ((command = .check ∨ command = .which) → n ≠ 0) := by
  cases command with
  | pick => simp [Needs, Admits]
  | list => simp [Needs, Admits]
  | check =>
      simp only [Needs, Admits, true_or, forall_const]
      omega
  | which => simp [Needs, Admits]

theorem values_commandOf {command : CommandName} {values : List String}
    (h : Needs command values.length) : (commandOf command values).values = values := by
  cases command with
  | pick => exact (List.length_eq_zero_iff.mp h).symm
  | list => exact (List.length_eq_zero_iff.mp h).symm
  | check =>
      obtain ⟨file, rfl⟩ := List.length_eq_one_iff.mp h
      rfl
  | which => rfl

/-! ## The values that were read -/

/-- The values of a command that were read, settled or not. -/
def State.taken (s : State) : List String :=
  match s.pending with
  | .values words => s.values ++ words
  | _ => s.values

/-- Values were read, behind two dashes or not, and the next word is not the path of an option. -/
structure Holds (command : CommandName) (values : List String) (dashed : Bool) (s : State) :
    Prop where
  taken : s.taken = values
  admits : Admits command values.length
  dashes : s.afterDashes = dashed
  ready : s.pending ≠ .config none

theorem holds_empty (command : CommandName) : Holds command [] false {} where
  taken := rfl
  admits := by cases command <;> simp [Admits]
  dashes := rfl
  ready := by simp

section

variable {command : CommandName} {values : List String} {dashed : Bool} {s : State}

theorem gives_setConfig (path : String) (s : State) :
    Gives (fun s' => s' = { s with config? := some path }) (s.setConfig path) := by
  unfold State.setConfig
  split
  · exact .refused rfl
  · split
    · exact .refused rfl
    · exact .accepted rfl

theorem gives_settle (place : Place) (s : State) :
    Gives (fun s' => s'.values = s.taken ∧ s'.pending = .nothing
      ∧ s'.afterDashes = s.afterDashes) (s.settle place) := by
  unfold State.settle State.taken
  cases hpending : s.pending with
  | nothing => exact .accepted ⟨rfl, hpending, rfl⟩
  | config word? =>
      cases word? with
      | none => exact .refused rfl
      | some path =>
          refine (gives_setConfig path _).imp fun s' hs' => ?_
          rw [hs']
          exact ⟨rfl, rfl, rfl⟩
  | values words =>
      simp only
      split
      · exact .refused rfl
      · exact .accepted ⟨rfl, rfl, rfl⟩

theorem holds_of_settled {s' : State} (hs : Holds command values dashed s)
    (h : s'.values = s.taken ∧ s'.pending = .nothing ∧ s'.afterDashes = s.afterDashes) :
    Holds command values dashed s' := by
  obtain ⟨hvalues, hpending, hdashes⟩ := h
  have htaken : s'.taken = s'.values := by rw [State.taken, hpending]
  exact ⟨by rw [htaken, hvalues, hs.taken], hs.admits, hdashes.trans hs.dashes,
    by simp [hpending]⟩

theorem Holds.addFlags (hs : Holds command values dashed s) (n : Nat) :
    Holds command values dashed (s.addFlags n) := by
  unfold State.addFlags
  split
  · exact hs
  · exact ⟨hs.taken, hs.admits, hs.dashes, hs.ready⟩

/-- Options leave the values as they are. -/
theorem gives_option (place : Place) {words : List String} {option : GlobalOption}
    (h : Spells words option) (hs : Holds command values false s) :
    Gives (Holds command values false) (words.foldlM (optionStep place) s) := by
  obtain ⟨take, htakes, heq⟩ := exists_takes place h s
  obtain ⟨count, path?⟩ := option
  rw [heq]
  refine (gives_settle place s).bind fun t _ ht => ?_
  have hcounted : Holds command values false (t.addFlags count) :=
    (holds_of_settled hs ht).addFlags count
  have hnothing : (t.addFlags count).pending = .nothing :=
    (State.pending_addFlags count t).trans ht.2.1
  generalize t.addFlags count = u at hcounted hnothing
  cases htakes with
  | none => exact .accepted hcounted
  | attached path =>
      refine (gives_setConfig path u).imp fun v hv => ?_
      rw [hv]
      exact ⟨hcounted.taken, hcounted.admits, hcounted.dashes, hcounted.ready⟩
  | apart path =>
      refine .accepted ⟨?_, hcounted.admits, hcounted.dashes, by simp⟩
      have htaken := hcounted.taken
      rw [State.taken, hnothing] at htaken
      exact htaken

/-- A value is added to the others, if the command admits one more. -/
theorem gives_readValue (hs : Holds command values dashed s) (value : String) :
    Gives (Holds command (values ++ [value]) dashed) (readValue command value s) := by
  have hadded {t : State} (hadmits : Admits command (values ++ [value]).length)
      (ht : t.values = s.taken ∧ t.pending = .nothing ∧ t.afterDashes = s.afterDashes) :
      Holds command (values ++ [value]) dashed { t with pending := .values [value] } := by
    refine ⟨?_, hadmits, ht.2.2.trans hs.dashes, by simp⟩
    show t.values ++ [value] = values ++ [value]
    rw [ht.1, hs.taken]
  unfold readValue
  cases command with
  | pick => exact .refused rfl
  | list => exact .refused rfl
  | check =>
      simp only
      split
      · exact .refused rfl
      · exact .refused rfl
      · next hvalues hpending =>
          have htaken : s.taken = [] := by
            rw [State.taken]
            split
            · next words heq => exact absurd heq (hpending words)
            · exact hvalues
          obtain rfl : values = [] := hs.taken.symm.trans htaken
          exact (gives_settle _ s).bind fun t _ ht => .accepted (hadded (Nat.le_refl 1) ht)
  | which =>
      simp only
      split
      · next words hpending =>
          refine .accepted ⟨?_, trivial, hs.dashes, by simp⟩
          have htaken := hs.taken
          rw [State.taken, hpending] at htaken
          rw [← htaken, List.append_assoc]
          rfl
      · exact (gives_settle _ s).bind fun t _ ht => .accepted (hadded trivial ht)

theorem gives_value (hs : Holds command values dashed s) {value : String}
    (h : dashed = true ∨ IsPlain value) :
    Gives (Holds command (values ++ [value]) dashed) (readBehind command s value) := by
  rw [readBehind_value h hs.dashes hs.ready]
  exact gives_readValue hs value

theorem gives_dashes (hs : Holds command values false s) :
    Gives (Holds command values true) (readBehind command s "--") := by
  have hread : readBehind command s "--" = .ok { s with afterDashes := true } := by
    unfold readBehind
    rw [hs.dashes]
    rfl
  rw [hread]
  exact .accepted ⟨hs.taken, hs.admits, rfl, hs.ready⟩

theorem gives_dashed (hs : Holds command values true s) (more : List String) :
    Gives (Holds command (values ++ more) true) (more.foldlM (readBehind command) s) := by
  induction more generalizing values s with
  | nil =>
      rw [List.append_nil]
      exact .accepted hs
  | cons value more ih =>
      rw [List.foldlM_cons, ← List.singleton_append, ← List.append_assoc]
      exact (gives_value hs (Or.inl rfl)).bind fun t _ ht => ih ht

/-- **Arguments give their values**, in order, behind the ones that were read. -/
theorem gives_arguments {words more : List String} (h : Arguments words more)
    (hs : Holds command values false s) :
    Gives (fun s' => ∃ dashed, Holds command (values ++ more) dashed s')
      (words.foldlM (readBehind command) s) := by
  induction h generalizing values s with
  | nil =>
      rw [List.append_nil]
      exact .accepted ⟨false, hs⟩
  | @option words later more option hoption _ ih =>
      rw [(readBehind_readsOptions command).read_option hoption hs.dashes]
      exact (gives_option (some command) hoption hs).bind fun t _ ht => ih ht
  | @value value later more hplain _ ih =>
      rw [List.foldlM_cons, ← List.singleton_append, ← List.append_assoc]
      exact (gives_value hs (Or.inr hplain)).bind fun t _ ht => ih ht
  | dashes more =>
      rw [List.foldlM_cons]
      exact (gives_dashes hs).bind fun t _ ht =>
        (gives_dashed ht more).imp fun _ h => ⟨true, h⟩

end

/-! ## Whole command lines -/

theorem gives_readCommand {words values : List String} (h : Arguments words values)
    (command : CommandName) :
    Gives (fun s => s.values = values ∧ Needs command values.length)
      (readCommand command words) := by
  unfold readCommand
  refine (gives_arguments h (holds_empty command)).bind fun s _ ⟨dashed, hs⟩ => ?_
  refine (gives_settle (some command) s).bind fun t _ ht => ?_
  have hvalues : t.values = values := ht.1.trans hs.taken
  split
  · exact .refused rfl
  · next hgiven =>
      refine .accepted ⟨hvalues, needs_iff.mpr ⟨hs.admits, fun htakes hnone => ?_⟩⟩
      refine hgiven ⟨htakes, ?_⟩
      rw [hvalues, ← List.length_eq_zero_iff, hnone]

theorem gives_options {words : List String} {options : List GlobalOption}
    (h : SpellsAll words options) (place : Place) {command : CommandName} {s : State}
    (hs : Holds command [] false s) :
    Gives (Holds command [] false) (words.foldlM (optionStep place) s) := by
  induction h generalizing s with
  | nil => exact .accepted hs
  | cons hword _ ih =>
      rw [List.foldlM_append]
      exact (gives_option place hword hs).bind fun t _ ht => ih ht

/-- **A command line with arguments gives their values to its command**, which needs as many. -/
theorem gives_parse {before words values : List String} {front : List GlobalOption}
    (hbefore : SpellsAll before front) (h : Arguments words values) (command : CommandName) :
    Gives (fun request => request.command? = some (commandOf command values)
      ∧ Needs command values.length) (parse (before ++ command.name :: words)) := by
  unfold parse
  rw [readBefore_readsOptions.read_options hbefore State.open_empty, bind_assoc]
  refine (gives_options hbefore none (holds_empty command)).bind fun s hs _ => ?_
  rw [readBefore_name (foldlM_isOpen_all hbefore State.open_empty hs), bind_assoc]
  refine (gives_readCommand h command).bind fun b _ hb => ?_
  rw [ok_bind]
  refine (gives_settle none s).bind fun a _ _ => .accepted ⟨?_, hb.2⟩
  rw [hb.1]

/-! ## Words, from what they look like -/

theorem Word.eq_of_dashes {word : String} (h : Word.of word = .dashes) : word = "--" := by
  unfold Word.of at h
  split at h
  · next heq => exact String.toList_inj.mp heq
  · split at h <;> cases h
  · cases h
  · cases h

theorem Word.isPlain_of_plain {word : String} (h : Word.of word = .plain) : IsPlain word := by
  unfold Word.of at h
  split at h
  · cases h
  · split at h <;> cases h
  · cases h
  · next hshort =>
      by_cases hdash : word.toList.head? = some '-'
      · obtain ⟨rest, hrest⟩ := List.head?_eq_some_iff.mp hdash
        cases rest with
        | nil => exact Or.inl (String.toList_inj.mp hrest)
        | cons c rest => exact absurd hrest (hshort c rest)
      · exact Or.inr hdash

theorem Word.eq_of_short {word : String} {letters : List Char} (h : Word.of word = .short letters) :
    word = cluster 0 letters ∧ letters ≠ [] := by
  unfold Word.of at h
  split at h
  · cases h
  · split at h <;> cases h
  · next heq =>
      cases h
      refine ⟨?_, List.cons_ne_nil _ _⟩
      rw [← String.ofList_toList (s := word), heq]
      rfl
  · cases h

/-- A long name as it is written, with its value if it has one. -/
def longWord (name : List Char) : Option String → String
  | none => "--" ++ String.ofList name
  | some value => "--" ++ String.ofList name ++ "=" ++ value

theorem Word.eq_of_long {word : String} {name : List Char} {value? : Option String}
    (h : Word.of word = .long name value?) : word = longWord name value? := by
  unfold Word.of at h
  split at h
  · cases h
  · next rest _ heq =>
      have hparts := List.takeWhile_append_dropWhile (p := fun c => decide (c ≠ '=')) (l := rest)
      have hsign := List.head?_dropWhile_not (fun c => decide (c ≠ '=')) rest
      apply String.toList_inj.mp
      split at h
      · cases h
        simp only [heq, longWord, String.toList_append, String.toList_ofList]
        rfl
      · next c value hdrop =>
          obtain ⟨rfl, rfl⟩ := Word.long.inj h
          rw [hdrop] at hparts hsign
          obtain rfl : c = '=' := by simpa using hsign
          simp only [heq, longWord, String.toList_append, String.toList_ofList, List.append_assoc]
          show '-' :: '-' :: rest = '-' :: '-' :: (rest.takeWhile _ ++ '=' :: value)
          rw [hparts]
  · cases h
  · cases h

/-! ## Words of options, from the states they leave -/

/-- What a word of an option is, by the state that it leaves: an option of its own, or one that
waits for its path. -/
inductive Begins (word : String) (s : State) : Prop where
  | whole {option : GlobalOption} :
      Spells [word] option → s.pending ≠ .config none → Begins word s
  | waits : (∀ path, IsPlain path → ∃ option, Spells [word, path] option) →
      s.pending = .config none → Begins word s

section

variable {place : Place} {s s' : State}

/-- An option that waits for its path cannot be settled. -/
theorem ready_of_settle (h : s.settle place = .ok s') : s.pending ≠ .config none := by
  intro hwaits
  unfold State.settle at h
  rw [hwaits] at h
  cases h

theorem stop_ne_ok {refusal : Refusal} : stop place s refusal ≠ .ok s' := by
  unfold stop
  cases s.settle place with
  | error r => exact fun h => by cases h
  | ok t => exact fun h => by cases h

theorem attachConfig_eq_ok {path : String} (h : s.attachConfig place path = .ok s') :
    s.pending ≠ .config none ∧ s'.pending = .nothing ∧ s'.afterDashes = s.afterDashes := by
  obtain ⟨t, ht, hset⟩ := bind_eq_ok_iff.mp h
  obtain ⟨hnothing, hdashes⟩ := State.settle_eq_ok ht
  rw [State.setConfig_eq_ok hset]
  exact ⟨ready_of_settle ht, hnothing, hdashes⟩

theorem awaitConfig_eq_ok (h : s.awaitConfig place = .ok s') :
    s.pending ≠ .config none ∧ s'.pending = .config none ∧ s'.afterDashes = s.afterDashes := by
  obtain ⟨t, ht, hwaiting⟩ := bind_eq_ok_iff.mp h
  obtain rfl := Except.ok.inj hwaiting
  exact ⟨ready_of_settle ht, rfl, (State.settle_eq_ok ht).2⟩

theorem countVerbose_eq_ok (h : s.countVerbose place = .ok s') :
    s.pending ≠ .config none ∧ s'.pending = .nothing ∧ s'.afterDashes = s.afterDashes := by
  obtain ⟨t, ht, hcounted⟩ := bind_eq_ok_iff.mp h
  obtain ⟨hnothing, hdashes⟩ := State.settle_eq_ok ht
  obtain rfl := Except.ok.inj hcounted
  exact ⟨ready_of_settle ht, hnothing, hdashes⟩

theorem cluster_cons (n : Nat) (letters : List Char) :
    cluster n ('v' :: letters) = cluster (n + 1) letters := by
  unfold cluster
  rw [List.replicate_succ', List.append_assoc]
  rfl

/-- Letters spell an option behind letters that are counted. -/
theorem begins_of_letters {letters : List Char} {n : Nat} (hsome : n + letters.length ≠ 0)
    (hready : letters = [] → s.pending ≠ .config none)
    (h : readLetters place letters s = .ok s') :
    s.pending ≠ .config none ∧ s'.afterDashes = s.afterDashes
      ∧ Begins (cluster n letters) s' := by
  induction letters generalizing s n with
  | nil =>
      obtain rfl := Except.ok.inj h
      obtain ⟨m, rfl⟩ := Nat.exists_eq_succ_of_ne_zero hsome
      exact ⟨hready rfl, rfl, .whole (.letters m) (hready rfl)⟩
  | cons c rest ih =>
      unfold readLetters at h
      split at h
      · next hv =>
          obtain rfl := hv
          obtain ⟨t, ht, hrest⟩ := bind_eq_ok_iff.mp h
          obtain ⟨hs, hnothing, hdashes⟩ := countVerbose_eq_ok ht
          have hready' : t.pending ≠ .config none := by simp [hnothing]
          have hsome' : n + 1 + rest.length ≠ 0 := by omega
          obtain ⟨-, hdashes', hbegins⟩ := ih hsome' (fun _ => hready') hrest
          rw [cluster_cons]
          exact ⟨hs, hdashes'.trans hdashes, hbegins⟩
      · split at h
        · next hc =>
            obtain rfl := hc
            split at h
            · obtain ⟨hs, hwaits, hdashes⟩ := awaitConfig_eq_ok h
              exact ⟨hs, hdashes, .waits (fun path hplain => ⟨_, .shortApart n hplain⟩) hwaits⟩
            · next path =>
                obtain ⟨hs, hnothing, hdashes⟩ := attachConfig_eq_ok h
                have hspells := Spells.shortSigned n (String.ofList path)
                rw [String.toList_ofList] at hspells
                exact ⟨hs, hdashes, .whole hspells (by simp [hnothing])⟩
            · next hnil hsign =>
                obtain ⟨hs, hnothing, hdashes⟩ := attachConfig_eq_ok h
                have hjoined : (String.ofList rest).toList = rest := String.toList_ofList
                have hne : String.ofList rest ≠ "" := fun hempty => by
                  rw [hempty] at hjoined
                  exact hnil hjoined.symm
                have hhead : (String.ofList rest).toList.head? ≠ some '=' := fun hhead => by
                  rw [hjoined] at hhead
                  obtain ⟨path, hpath⟩ := List.head?_eq_some_iff.mp hhead
                  exact hsign path hpath
                have hspells := Spells.shortJoined n hne hhead
                rw [hjoined] at hspells
                exact ⟨hs, hdashes, .whole hspells (by simp [hnothing])⟩
        · split at h
          · exact absurd h stop_ne_ok
          · split at h
            · exact absurd h stop_ne_ok
            · cases h

theorem begins_of_long {name : List Char} {value? : Option String}
    (h : readLong place name value? s = .ok s') :
    s.pending ≠ .config none ∧ s'.afterDashes = s.afterDashes
      ∧ Begins (longWord name value?) s' := by
  unfold readLong at h
  simp only at h
  split at h
  · next hname =>
      obtain rfl := String.ofList_injective (hname.trans String.ofList_toList.symm)
      split at h
      · next path =>
          obtain ⟨hs, hnothing, hdashes⟩ := attachConfig_eq_ok h
          exact ⟨hs, hdashes, .whole (.longSigned path) (by simp [hnothing])⟩
      · obtain ⟨hs, hwaits, hdashes⟩ := awaitConfig_eq_ok h
        exact ⟨hs, hdashes, .waits (fun path hplain => ⟨_, .longApart hplain⟩) hwaits⟩
  · split at h
    · next hname =>
        obtain rfl := String.ofList_injective (hname.trans String.ofList_toList.symm)
        split at h
        · cases h
        · obtain ⟨hs, hnothing, hdashes⟩ := countVerbose_eq_ok h
          exact ⟨hs, hdashes, .whole .verbose (by simp [hnothing])⟩
    · split at h
      · split at h
        · cases h
        · exact absurd h stop_ne_ok
      · split at h
        · split at h
          · cases h
          · exact absurd h stop_ne_ok
        · cases h

/-- The word looks like one or more options. -/
def LooksLikeOption (word : String) : Prop :=
  (∃ letters, Word.of word = .short letters) ∨ ∃ name value?, Word.of word = .long name value?

/-- A word of an option is not read while another option waits for its path. -/
theorem begins_of_optionStep {word : String} (hlooks : LooksLikeOption word)
    (h : optionStep place s word = .ok s') :
    s.pending ≠ .config none ∧ s'.afterDashes = s.afterDashes ∧ Begins word s' := by
  unfold optionStep at h
  rcases hlooks with ⟨letters, hword⟩ | ⟨name, value?, hword⟩
  · obtain ⟨rfl, hne⟩ := Word.eq_of_short hword
    rw [hword] at h
    refine begins_of_letters (n := 0) ?_ (fun hnil => absurd hnil hne) h
    rw [Nat.zero_add]
    exact mt List.length_eq_zero_iff.mp hne
  · obtain rfl := Word.eq_of_long hword
    rw [hword] at h
    exact begins_of_long h

end

/-! ## What an accepted command line consists of -/

/-- Words do something, behind the path of the option that waits for one. -/
inductive Follow (R : List String → Prop) (s : State) : List String → Prop where
  | ready {words : List String} : s.pending ≠ .config none → R words → Follow R s words
  | path {path : String} {words : List String} :
      s.pending = .config none → IsPlain path → R words → Follow R s (path :: words)

theorem Follow.of_ready {R : List String → Prop} {s : State} {words : List String}
    (hready : s.pending ≠ .config none) (h : Follow R s words) : R words := by
  cases h with
  | ready _ hwords => exact hwords
  | path hwaits => exact absurd hwaits hready

theorem Follow.begins {R : List String → Prop}
    (hR : ∀ {words later option}, Spells words option → R later → R (words ++ later))
    {s : State} {word : String} {words : List String} (hbegins : Begins word s)
    (h : Follow R s words) : R (word :: words) := by
  cases hbegins with
  | whole hspells hready => exact hR hspells (h.of_ready hready)
  | waits hspells hwaits =>
      cases h with
      | ready hready => exact absurd hwaits hready
      | path _ hplain hwords =>
          obtain ⟨option, hspells⟩ := hspells _ hplain
          exact hR hspells hwords

section

variable {command : CommandName}

/-- What reading a word behind a command can do, before two dashes. -/
theorem readBehind_cases {s s' : State} {word : String} (hdashes : s.afterDashes = false)
    (h : readBehind command s word = .ok s') :
    (word = "--" ∧ s' = { s with afterDashes := true })
      ∨ (LooksLikeOption word ∧ optionStep (some command) s word = .ok s')
      ∨ (IsPlain word ∧ s.pending = .config none
        ∧ s' = { s with pending := .config (some word) })
      ∨ (IsPlain word ∧ readValue command word s = .ok s') := by
  rw [readBehind, if_neg (by simp [hdashes])] at h
  unfold optionStep
  cases hlooks : Word.of word with
  | dashes =>
      rw [hlooks] at h
      exact Or.inl ⟨Word.eq_of_dashes hlooks, (Except.ok.inj h).symm⟩
  | short letters =>
      rw [hlooks] at h
      exact Or.inr (Or.inl ⟨Or.inl ⟨letters, hlooks⟩, h⟩)
  | long name value? =>
      rw [hlooks] at h
      exact Or.inr (Or.inl ⟨Or.inr ⟨name, value?, hlooks⟩, h⟩)
  | plain =>
      have hplain := Word.isPlain_of_plain hlooks
      rw [hlooks] at h
      simp only at h
      split at h
      · next hwaits =>
          exact Or.inr (Or.inr (Or.inl ⟨hplain, hwaits, (Except.ok.inj h).symm⟩))
      · exact Or.inr (Or.inr (Or.inr ⟨hplain, h⟩))

theorem readValue_eq_ok {s s' : State} {value : String} (h : readValue command value s = .ok s') :
    s.pending ≠ .config none ∧ s'.pending ≠ .config none ∧ s'.afterDashes = s.afterDashes := by
  have hfirst (hread : (s.settle (some command) >>= fun t =>
      .ok { t with pending := .values [value] }) = .ok s') :
      s.pending ≠ .config none ∧ s'.pending ≠ .config none ∧ s'.afterDashes = s.afterDashes := by
    obtain ⟨t, ht, hfirst⟩ := bind_eq_ok_iff.mp hread
    obtain rfl := Except.ok.inj hfirst
    exact ⟨ready_of_settle ht, by simp, (State.settle_eq_ok ht).2⟩
  unfold readValue at h
  cases command with
  | pick => cases h
  | list => cases h
  | check =>
      simp only at h
      split at h
      · cases h
      · cases h
      · exact hfirst h
  | which =>
      simp only at h
      split at h
      · next hpending =>
          obtain rfl := Except.ok.inj h
          exact ⟨by simp [hpending], by simp, rfl⟩
      · exact hfirst h

/-- Behind two dashes an option is not given its path any more. -/
theorem ready_of_dashed {words : List String} {s t u : State} (hdashes : s.afterDashes = true)
    (hread : words.foldlM (readBehind command) s = .ok t)
    (hsettle : t.settle (some command) = .ok u) : s.pending ≠ .config none := by
  cases words with
  | nil =>
      obtain rfl := Except.ok.inj hread
      exact ready_of_settle hsettle
  | cons word words =>
      rw [List.foldlM_cons] at hread
      obtain ⟨s', hword, -⟩ := bind_eq_ok_iff.mp hread
      rw [readBehind, if_pos hdashes] at hword
      exact (readValue_eq_ok hword).1

/-- **Words behind a command that are accepted are arguments.** -/
theorem follow_arguments {words : List String} {s t u : State} (hdashes : s.afterDashes = false)
    (hread : words.foldlM (readBehind command) s = .ok t)
    (hsettle : t.settle (some command) = .ok u) :
    Follow (fun words => ∃ values, Arguments words values) s words := by
  induction words generalizing s with
  | nil =>
      obtain rfl := Except.ok.inj hread
      exact .ready (ready_of_settle hsettle) ⟨[], .nil⟩
  | cons word words ih =>
      rw [List.foldlM_cons] at hread
      obtain ⟨s', hword, hread⟩ := bind_eq_ok_iff.mp hread
      rcases readBehind_cases hdashes hword with
        ⟨rfl, rfl⟩ | ⟨hlooks, hstep⟩ | ⟨hplain, hwaits, rfl⟩ | ⟨hplain, hvalue⟩
      · have hready : ({ s with afterDashes := true } : State).pending ≠ .config none :=
          ready_of_dashed rfl hread hsettle
        exact .ready hready ⟨words, .dashes words⟩
      · obtain ⟨hready, hdashes', hbegins⟩ := begins_of_optionStep hlooks hstep
        refine .ready hready (Follow.begins ?_ hbegins (ih (hdashes'.trans hdashes) hread))
        rintro words later option hspells ⟨values, hlater⟩
        exact ⟨values, .option hspells hlater⟩
      · have hlater : Follow (fun words => ∃ values, Arguments words values)
            { s with pending := .config (some word) } words := ih hdashes hread
        exact .path hwaits hplain (hlater.of_ready (by simp))
      · obtain ⟨hready, hready', hdashes'⟩ := readValue_eq_ok hvalue
        obtain ⟨values, hvalues⟩ := (ih (hdashes'.trans hdashes) hread).of_ready hready'
        exact .ready hready ⟨word :: values, .value hplain hvalues⟩

theorem exists_arguments {words : List String} {behind : State}
    (h : readCommand command words = .ok behind) : ∃ values, Arguments words values := by
  unfold readCommand at h
  obtain ⟨t, hread, h⟩ := bind_eq_ok_iff.mp h
  obtain ⟨u, hsettle, -⟩ := bind_eq_ok_iff.mp h
  exact (follow_arguments rfl hread hsettle).of_ready (by simp)

end

theorem CommandName.eq_name {word : String} {command : CommandName}
    (h : CommandName.ofName? word = some command) : word = command.name := by
  have hname := List.find?_some h
  exact (beq_iff_eq.mp hname).symm

/-- What reading a word in front of a command can do. -/
theorem readBefore_cases {s : State} {word : String} {words : List String}
    {result : State × Option (CommandName × State)}
    (h : readBefore s (word :: words) = .ok result) :
    s.afterDashes = false
      ∧ (readBefore { s with afterDashes := true } words = .ok result
        ∨ (LooksLikeOption word
          ∧ ∃ s', optionStep none s word = .ok s' ∧ readBefore s' words = .ok result)
        ∨ (IsPlain word ∧ s.pending = .config none
          ∧ readBefore { s with pending := .config (some word) } words = .ok result)
        ∨ (s.pending ≠ .config none ∧ ∃ command behind, word = command.name
          ∧ readCommand command words = .ok behind ∧ result = (s, some (command, behind)))) := by
  rw [readBefore] at h
  split at h
  · cases h
  · next hdashes =>
      refine ⟨Bool.eq_false_iff.mpr hdashes, ?_⟩
      unfold optionStep
      cases hlooks : Word.of word with
      | dashes =>
          rw [hlooks] at h
          exact Or.inl h
      | short letters =>
          rw [hlooks] at h
          exact Or.inr (Or.inl ⟨Or.inl ⟨letters, hlooks⟩, bind_eq_ok_iff.mp h⟩)
      | long name value? =>
          rw [hlooks] at h
          exact Or.inr (Or.inl ⟨Or.inr ⟨name, value?, hlooks⟩, bind_eq_ok_iff.mp h⟩)
      | plain =>
          rw [hlooks] at h
          simp only at h
          split at h
          · next hwaits =>
              exact Or.inr (Or.inr (Or.inl ⟨Word.isPlain_of_plain hlooks, hwaits, h⟩))
          · next hready =>
              split at h
              · cases h
              · split at h
                · cases h
                · next command hname =>
                    obtain ⟨behind, hbehind, hresult⟩ := bind_eq_ok_iff.mp h
                    exact Or.inr (Or.inr (Or.inr ⟨hready, command, behind,
                      CommandName.eq_name hname, hbehind, (Except.ok.inj hresult).symm⟩))

/-- Options, a command, and words that the command reads. -/
def Leads (command : CommandName) (behind : State) (words : List String) : Prop :=
  ∃ before front after, words = before ++ command.name :: after ∧ SpellsAll before front
    ∧ readCommand command after = .ok behind

theorem Leads.option {command : CommandName} {behind : State} {words later : List String}
    {option : GlobalOption} (hspells : Spells words option) (h : Leads command behind later) :
    Leads command behind (words ++ later) := by
  obtain ⟨before, front, after, rfl, hbefore, hread⟩ := h
  exact ⟨words ++ before, option :: front, after, (List.append_assoc _ _ _).symm,
    .cons hspells hbefore, hread⟩

/-- **Words up to a command that is accepted are options.** -/
theorem follow_leads {words : List String} {s t : State} {command : CommandName} {behind : State}
    (hread : readBefore s words = .ok (t, some (command, behind))) :
    s.afterDashes = false ∧ Follow (Leads command behind) s words := by
  induction words generalizing s with
  | nil => cases hread
  | cons word words ih =>
      obtain ⟨hdashes, hcases⟩ := readBefore_cases hread
      refine ⟨hdashes, ?_⟩
      rcases hcases with hdashed | ⟨hlooks, s', hstep, hlater⟩ | ⟨hplain, hwaits, hlater⟩
        | ⟨hready, command', behind', rfl, hbehind, hfound⟩
      · exact absurd (ih hdashed).1 (by simp)
      · obtain ⟨hready, -, hbegins⟩ := begins_of_optionStep hlooks hstep
        exact .ready hready (Follow.begins Leads.option hbegins (ih hlater).2)
      · exact .path hwaits hplain ((ih hlater).2.of_ready (by simp))
      · cases hfound
        exact .ready hready ⟨[], [], words, rfl, .nil, hbehind⟩

theorem commandName_commandOf (command : CommandName) (values : List String) :
    (commandOf command values).commandName = command := by
  cases command <;> rfl

/-- **A command line that is accepted for a command consists of options, the command and
arguments**, whose values the command has. -/
theorem arguments_of_parse {words : List String} {request : Request} {command : Command}
    (hparse : parse words = .ok request) (hcommand : request.command? = some command) :
    ∃ before front after, words = before ++ command.commandName.name :: after
      ∧ SpellsAll before front ∧ Arguments after command.values := by
  unfold parse at hparse
  obtain ⟨⟨s, found⟩, hread, hparse⟩ := bind_eq_ok_iff.mp hparse
  obtain ⟨a, -, hparse⟩ := bind_eq_ok_iff.mp hparse
  cases found with
  | none =>
      obtain rfl := Except.ok.inj hparse
      cases hcommand
  | some found =>
      obtain ⟨name, behind⟩ := found
      obtain rfl := Except.ok.inj hparse
      obtain rfl := Option.some.inj hcommand
      obtain ⟨before, front, after, rfl, hbefore, hbehind⟩ :=
        (follow_leads hread).2.of_ready (by simp)
      obtain ⟨values, hvalues⟩ := exists_arguments hbehind
      have hgives := gives_readCommand hvalues name
      rw [hbehind] at hgives
      obtain ⟨rfl, hneeds⟩ := hgives.of_ok
      rw [commandName_commandOf, values_commandOf hneeds]
      exact ⟨before, front, after, rfl, hbefore, hvalues⟩

end CommandLine

end GlyphBook
