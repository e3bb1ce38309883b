import GlyphBook.CommandLine.GlobalOption

/-!
# Reading options and values

On either side of the command options are read word by word, and a path that stands in a word of its
own stays pending until the next option settles it. So the state behind an option depends on how the
option was spelled, but not what becomes of that state when it is settled: reading options and
settling is settling first and then taking one option after the other (`foldlM_settle`), and the
options together leave their paths' choice and their count (`foldlM_take`).

The same holds of the values of a command, which are pending until the end (`foldlM_values`).
-/

namespace GlyphBook

namespace CommandLine

open GlobalOption

/-! ## Steps that may be refused -/

theorem ok_bind {α β : Type} (a : α) (f : α → Except Refusal β) : (Except.ok a >>= f) = f a := rfl

theorem bind_eq_ok_iff {α β : Type} {x : Except Refusal α} {f : α → Except Refusal β} {b : β} :
    (x >>= f) = .ok b ↔ ∃ a, x = .ok a ∧ f a = .ok b := by
  cases x with
  | error r => simp [bind, Except.bind]
  | ok a => simp [bind, Except.bind]

theorem bind_congr_ok {α β : Type} {x : Except Refusal α} {f g : α → Except Refusal β}
    (h : ∀ a, x = .ok a → f a = g a) : (x >>= f) = (x >>= g) := by
  cases x with
  | error r => rfl
  | ok a => exact h a rfl

/-! ## Words -/

theorem Word.of_plain {word : String} (h : IsPlain word) : Word.of word = .plain := by
  unfold Word.of
  rcases h with rfl | h
  · rfl
  · split
    · next heq => simp [heq] at h
    · next heq => simp [heq] at h
    · next heq => simp [heq] at h
    · rfl

theorem Word.of_letters {c : Char} (cs : List Char) (hc : c ≠ '-') :
    Word.of (String.ofList ('-' :: c :: cs)) = .short (c :: cs) := by
  unfold Word.of
  rw [String.toList_ofList]
  split
  · next heq => simp_all
  · next heq => simp_all
  · next heq => simp_all
  · next hnot => exact absurd rfl (hnot c cs)

theorem Word.of_cluster (n : Nat) {c : Char} (cs : List Char) (hc : c ≠ '-') :
    Word.of (cluster n (c :: cs)) = .short (List.replicate n 'v' ++ c :: cs) := by
  cases n with
  | zero => exact of_letters cs hc
  | succ n => exact of_letters _ (by decide)

theorem Word.of_flags (n : Nat) :
    Word.of (cluster (n + 1) []) = .short (List.replicate (n + 1) 'v' ++ []) :=
  of_letters _ (by decide)

theorem Word.of_longSigned (path : String) :
    Word.of ("--config=" ++ path) = .long "config".toList (some path) := by
  have hword : ("--config=" ++ path).toList
      = '-' :: '-' :: 'c' :: 'o' :: 'n' :: 'f' :: 'i' :: 'g' :: '=' :: path.toList := by
    rw [String.toList_append]
    rfl
  unfold Word.of
  rw [hword]
  simp [List.dropWhile, List.takeWhile]

/-! ## Settling -/

namespace State

variable {place : Place} {s s' : State} {path : String}

theorem setConfig_eq_ok (h : s.setConfig path = .ok s') : s' = { s with config? := some path } := by
  unfold setConfig at h
  split at h
  · cases h
  · split at h
    · cases h
    · exact (Except.ok.inj h).symm

theorem settle_of_nothing (place : Place) (h : s.pending = .nothing) : s.settle place = .ok s := by
  unfold settle
  rw [h]

/-- What is settled is not pending any more, and settling ends no options. -/
theorem settle_eq_ok (h : s.settle place = .ok s') :
    s'.pending = .nothing ∧ s'.afterDashes = s.afterDashes := by
  unfold settle at h
  split at h
  · next hnothing =>
      obtain rfl := Except.ok.inj h
      exact ⟨hnothing, rfl⟩
  · cases h
  · rw [setConfig_eq_ok h]
    exact ⟨rfl, rfl⟩
  · split at h
    · cases h
    · obtain rfl := Except.ok.inj h
      exact ⟨rfl, rfl⟩

/-- Between options nothing is pending but a path, if anything is. -/
structure Open (s : State) : Prop where
  noDashes : s.afterDashes = false
  noValues : s.values = []
  ready : s.pending = .nothing ∨ ∃ path, s.pending = .config (some path)

theorem open_empty : Open {} := ⟨rfl, rfl, Or.inl rfl⟩

theorem Open.not_waiting (hs : s.Open) : s.pending ≠ .config none := by
  rcases hs.ready with hnothing | ⟨path, hpath⟩
  · simp [hnothing]
  · simp [hpath]

theorem Open.settle (hs : s.Open) (h : s.settle place = .ok s') :
    s'.Open ∧ s'.pending = .nothing := by
  obtain ⟨hnothing, hdashes⟩ := settle_eq_ok h
  refine ⟨⟨hdashes.trans hs.noDashes, ?_, Or.inl hnothing⟩, hnothing⟩
  rcases hs.ready with hnothing | ⟨path, hpath⟩
  · rw [settle_of_nothing place hnothing] at h
    obtain rfl := Except.ok.inj h
    exact hs.noValues
  · simp only [State.settle, hpath] at h
    rw [setConfig_eq_ok h]
    exact hs.noValues

/-! ## Counting -/

/-- The state when the verbosity flag was met a number of times. -/
def addFlags (n : Nat) (s : State) : State :=
  if n = 0 then s
  else { s with verbosity? := some (min verbosityLimit (s.verbosity?.getD 0 + n)) }

theorem addFlags_addFlags (n m : Nat) (s : State) :
    (s.addFlags n).addFlags m = s.addFlags (n + m) := by
  unfold addFlags
  by_cases hn : n = 0
  · rw [if_pos hn, hn, Nat.zero_add]
  · by_cases hm : m = 0
    · rw [if_pos hm, hm, Nat.add_zero]
    · have hlimit : min verbosityLimit (min verbosityLimit (s.verbosity?.getD 0 + n) + m)
          = min verbosityLimit (s.verbosity?.getD 0 + (n + m)) := by omega
      simp only [hn, hm, if_false, Option.getD_some, hlimit, Nat.add_eq_zero_iff, false_and]

theorem pending_addFlags (n : Nat) (s : State) : (s.addFlags n).pending = s.pending := by
  unfold addFlags
  split <;> rfl

theorem settle_addFlags (place : Place) (n : Nat) (h : s.pending = .nothing) :
    (s.addFlags n).settle place = .ok (s.addFlags n) :=
  settle_of_nothing place ((pending_addFlags n s).trans h)

theorem config?_addFlags (n : Nat) (s : State) : (s.addFlags n).config? = s.config? := by
  unfold addFlags
  split <;> rfl

theorem Open.addFlags (hs : s.Open) (n : Nat) : (s.addFlags n).Open := by
  unfold State.addFlags
  split
  · exact hs
  · exact ⟨hs.noDashes, hs.noValues, hs.ready⟩

end State

/-! ## Letters -/

section

variable {place : Place} {s : State}

theorem readLetters_flags (place : Place) (s : State) (n : Nat) (rest : List Char) :
    readLetters place (List.replicate (n + 1) 'v' ++ rest) s
      = s.settle place >>= fun s => readLetters place rest (s.addFlags (n + 1)) := by
  have hfirst : ∀ (cs : List Char) (s : State), readLetters place ('v' :: cs) s
      = s.settle place >>= fun s => readLetters place cs (s.addFlags 1) := by
    intro cs s
    show (s.settle place >>= _) >>= _ = _
    rw [bind_assoc]
    rfl
  induction n generalizing s with
  | zero => exact hfirst rest s
  | succ n ih =>
      rw [List.replicate_succ, List.cons_append, hfirst]
      refine bind_congr_ok fun s' hs' => ?_
      rw [ih, State.settle_addFlags place 1 (State.settle_eq_ok hs').1, ok_bind,
        State.addFlags_addFlags, Nat.add_comm 1]

/-- The letter of the configuration option behind letters that are counted. -/
theorem readLetters_config {rest : List Char} {take : State → Except Refusal State}
    (htake : ∀ s, readLetters place ('c' :: rest) s = s.settle place >>= take) (s : State)
    (n : Nat) : readLetters place (List.replicate n 'v' ++ 'c' :: rest) s
      = s.settle place >>= fun s => take (s.addFlags n) := by
  cases n with
  | zero => exact htake s
  | succ n =>
      rw [readLetters_flags]
      refine bind_congr_ok fun s' hs' => ?_
      rw [htake, State.settle_addFlags place (n + 1) (State.settle_eq_ok hs').1, ok_bind]

theorem readLetters_waits (place : Place) (s : State) :
    readLetters place ['c'] s
      = s.settle place >>= fun s => .ok { s with pending := .config none } := rfl

theorem readLetters_signed (place : Place) (path : String) (s : State) :
    readLetters place ('c' :: '=' :: path.toList) s = s.settle place >>= State.setConfig path := by
  show s.attachConfig place (String.ofList path.toList) = _
  rw [String.ofList_toList]
  rfl

theorem readLetters_joined (place : Place) {path : String} (hne : path ≠ "")
    (hsign : path.toList.head? ≠ some '=') (s : State) :
    readLetters place ('c' :: path.toList) s = s.settle place >>= State.setConfig path := by
  have hattach : readLetters place ('c' :: path.toList) s
      = s.attachConfig place (String.ofList path.toList) := by
    unfold readLetters
    rw [if_neg (by decide), if_pos rfl]
    split
    · next hnil => exact absurd (String.toList_eq_nil_iff.mp hnil) hne
    · next heq => simp [heq] at hsign
    · rfl
  rw [hattach, String.ofList_toList]
  rfl

end

/-! ## One option -/

/-- A word of an option, read on either side of the command. -/
def optionStep (place : Place) (s : State) (word : String) : Except Refusal State :=
  match Word.of word with
  | .long name value? => readLong place name value? s
  | .short letters => readLetters place letters s
  | _ => .ok { s with pending := .config (some word) }

/-- What is done with the path of an option once everything before it is settled: it is accepted, or
it stays pending. -/
inductive Takes : Option String → (State → Except Refusal State) → Prop where
  | none : Takes none .ok
  | attached (path : String) : Takes (some path) (State.setConfig path)
  | apart (path : String) :
      Takes (some path) fun s => .ok { s with pending := .config (some path) }

section

variable {place : Place} {s : State} {words : List String} {option : GlobalOption}

theorem optionStep_of_short {word : String} {letters : List Char}
    (h : Word.of word = .short letters) (place : Place) (s : State) :
    optionStep place s word = readLetters place letters s := by
  unfold optionStep
  rw [h]

theorem optionStep_of_plain {word : String} (h : IsPlain word) (place : Place) (s : State) :
    optionStep place s word = .ok { s with pending := .config (some word) } := by
  unfold optionStep
  rw [Word.of_plain h]

/-- The state in which an option waits for its path. -/
theorem optionStep_cluster_waits (place : Place) (s : State) (n : Nat) :
    optionStep place s (cluster n ['c'])
      = s.settle place >>= fun s => .ok { s.addFlags n with pending := .config none } := by
  rw [optionStep_of_short (Word.of_cluster n [] (by decide)),
    readLetters_config (readLetters_waits place)]

theorem optionStep_long_waits :
    optionStep place s "--config"
      = s.settle place >>= fun s => .ok { s with pending := .config none } := rfl

/-- **Reading an option** settles what is pending, counts, and takes the path. -/
theorem exists_takes (place : Place) (h : Spells words option) (s : State) :
    ∃ take, Takes option.path? take ∧ words.foldlM (optionStep place) s
      = s.settle place >>= fun s => take (s.addFlags option.count) := by
  cases h with
  | letters n =>
      refine ⟨_, .none, ?_⟩
      rw [List.foldlM_cons, optionStep_of_short (Word.of_flags n), readLetters_flags]
      exact bind_pure _
  | verbose => exact ⟨_, .none, bind_pure _⟩
  | shortApart n hplain =>
      refine ⟨_, .apart _, ?_⟩
      rw [List.foldlM_cons, optionStep_cluster_waits, bind_assoc]
      refine bind_congr_ok fun s' _ => ?_
      rw [ok_bind, List.foldlM_cons, optionStep_of_plain hplain]
      rfl
  | shortSigned n path =>
      refine ⟨_, .attached path, ?_⟩
      rw [List.foldlM_cons, optionStep_of_short (Word.of_cluster n _ (by decide)),
        readLetters_config (readLetters_signed place path)]
      exact bind_pure _
  | shortJoined n hne hsign =>
      refine ⟨_, .attached _, ?_⟩
      rw [List.foldlM_cons, optionStep_of_short (Word.of_cluster n _ (by decide)),
        readLetters_config (readLetters_joined place hne hsign)]
      exact bind_pure _
  | longApart hplain =>
      refine ⟨_, .apart _, ?_⟩
      rw [List.foldlM_cons, optionStep_long_waits, bind_assoc]
      refine bind_congr_ok fun s' _ => ?_
      rw [ok_bind, List.foldlM_cons, optionStep_of_plain hplain]
      rfl
  | longSigned path =>
      refine ⟨_, .attached path, ?_⟩
      rw [List.foldlM_cons]
      unfold optionStep
      rw [Word.of_longSigned]
      exact bind_pure _

theorem Takes.isOpen {path? : Option String} {take : State → Except Refusal State}
    {s' : State} (h : Takes path? take) (hs : s.Open) (htakes : take s = .ok s') :
    s'.Open := by
  cases h with
  | none =>
      obtain rfl := Except.ok.inj htakes
      exact hs
  | attached path =>
      obtain rfl := State.setConfig_eq_ok htakes
      exact ⟨hs.noDashes, hs.noValues, hs.ready⟩
  | apart path =>
      obtain rfl := Except.ok.inj htakes
      exact ⟨hs.noDashes, hs.noValues, Or.inr ⟨path, rfl⟩⟩

/-- Takes a path, if there is one. -/
def State.choose (path? : Option String) (s : State) : Except Refusal State :=
  match path? with
  | none => .ok s
  | some path => s.setConfig path

theorem Takes.settle {path? : Option String} {take : State → Except Refusal State}
    (h : Takes path? take) (hs : s.pending = .nothing) :
    (take s >>= State.settle place) = s.choose path? := by
  cases h with
  | none => exact State.settle_of_nothing place hs
  | attached path =>
      show (s.setConfig path >>= State.settle place) = s.setConfig path
      cases hset : s.setConfig path with
      | error r => rfl
      | ok s' =>
          refine State.settle_of_nothing place ?_
          rw [State.setConfig_eq_ok hset]
          exact hs
  | apart path =>
      have hsame : ({ s with pending := .nothing } : State) = s := by rw [← hs]
      show ({ s with pending := .nothing } : State).setConfig path = s.setConfig path
      rw [hsame]

/-- Takes an option all of whose words have been read. -/
def takeOption (s : State) (option : GlobalOption) : Except Refusal State :=
  (s.addFlags option.count).choose option.path?

theorem foldlM_isOpen {s' : State} (h : Spells words option) (hs : s.Open)
    (hread : words.foldlM (optionStep place) s = .ok s') : s'.Open := by
  obtain ⟨take, htakes, heq⟩ := exists_takes place h s
  rw [heq] at hread
  obtain ⟨t, hsettle, hread⟩ := bind_eq_ok_iff.mp hread
  exact htakes.isOpen ((hs.settle hsettle).1.addFlags _) hread

theorem foldlM_settle_option (h : Spells words option) (hs : s.Open) :
    (words.foldlM (optionStep place) s >>= State.settle place)
      = s.settle place >>= fun s => takeOption s option := by
  obtain ⟨take, htakes, heq⟩ := exists_takes place h s
  rw [heq, bind_assoc]
  refine bind_congr_ok fun s' hs' => ?_
  exact htakes.settle ((State.pending_addFlags _ s').trans (hs.settle hs').2)

end

/-! ## Several options -/

section

variable {place : Place} {s : State} {words : List String} {options : List GlobalOption}

theorem foldlM_isOpen_all {s' : State} (h : SpellsAll words options) (hs : s.Open)
    (hread : words.foldlM (optionStep place) s = .ok s') : s'.Open := by
  induction h generalizing s with
  | nil =>
      obtain rfl := Except.ok.inj hread
      exact hs
  | @cons words later option options hword _ ih =>
      rw [List.foldlM_append] at hread
      obtain ⟨t, hfirst, hread⟩ := bind_eq_ok_iff.mp hread
      exact ih (foldlM_isOpen hword hs hfirst) hread

/-- **Reading options and settling** is settling and taking the options one after the other. -/
theorem foldlM_settle (h : SpellsAll words options) (hs : s.Open) :
    (words.foldlM (optionStep place) s >>= State.settle place)
      = s.settle place >>= options.foldlM takeOption := by
  induction h generalizing s with
  | nil => exact (bind_pure _).symm
  | @cons words later option options hword _ ih =>
      rw [List.foldlM_append, bind_assoc]
      calc words.foldlM (optionStep place) s >>=
            (fun t => later.foldlM (optionStep place) t >>= State.settle place)
          = words.foldlM (optionStep place) s >>=
              (fun t => t.settle place >>= options.foldlM takeOption) :=
            bind_congr_ok fun t ht => ih (foldlM_isOpen hword hs ht)
        _ = (words.foldlM (optionStep place) s >>= State.settle place)
              >>= options.foldlM takeOption := (bind_assoc _ _ _).symm
        _ = s.settle place >>= (option :: options).foldlM takeOption := by
            rw [foldlM_settle_option hword hs, bind_assoc]
            rfl

/-! ## What the options leave -/

/-- The path that is chosen when more paths follow one that may be chosen already. -/
def chosenAfter (config? : Option String) (paths : List String) :
    Except Refusal (Option String) :=
  match config?, paths with
  | none, paths => chosen paths
  | some path, [] => .ok (some path)
  | some _, _ :: _ => .error .repeatedConfig

theorem chosenAfter_nil (config? : Option String) : chosenAfter config? [] = .ok config? := by
  cases config? <;> rfl

theorem chosenAfter_some (path : String) (paths : List String) (h : path ≠ "") :
    chosenAfter (some path) paths = chosen (path :: paths) := by
  cases paths with
  | nil => simp only [chosenAfter, chosen, h, if_false, if_true]
  | cons next later => simp only [chosenAfter, chosen, h, if_false, List.cons_ne_nil]

theorem addFlags_setConfig (n : Nat) (s : State) (config? : Option String) :
    ({ s with config? } : State).addFlags n = { s.addFlags n with config? } := by
  unfold State.addFlags
  split <;> rfl

theorem total_cons (option : GlobalOption) (options : List GlobalOption) :
    total (option :: options) = option.count + total options := by
  rw [total, List.map_cons, List.sum_cons]
  rfl

/-- **Options are taken together**: their paths leave one choice, and their counts are added. -/
theorem foldlM_take (options : List GlobalOption) (s : State) :
    options.foldlM takeOption s = (chosenAfter s.config? (given options)).map fun config? =>
      { s.addFlags (total options) with config? } := by
  induction options generalizing s with
  | nil =>
      rw [given, List.filterMap_nil, chosenAfter_nil]
      rfl
  | cons option options ih =>
      obtain ⟨count, path?⟩ := option
      rw [List.foldlM_cons, total_cons, ← State.addFlags_addFlags]
      cases path? with
      | none =>
          show options.foldlM takeOption (s.addFlags count) = _
          rw [ih, State.config?_addFlags]
          rfl
      | some path =>
          show ((s.addFlags count).setConfig path >>= fun s => options.foldlM takeOption s) = _
          rw [show given (⟨count, some path⟩ :: options) = path :: given options from rfl]
          unfold State.setConfig
          rw [State.config?_addFlags]
          cases hconfig : s.config? with
          | some given => rfl
          | none =>
              by_cases hempty : path = ""
              · rw [hempty]
                rfl
              · rw [if_neg (by decide), if_neg hempty, ok_bind, ih, chosenAfter_some path _ hempty]
                simp only [addFlags_setConfig]
                rfl

end

/-! ## Both sides of the command -/

/-- The word is an option, or the path that one waits for. -/
def IsOptionWord (s : State) (word : String) : Prop :=
  (∃ letters, Word.of word = .short letters) ∨ (∃ name value?, Word.of word = .long name value?)
    ∨ (Word.of word = .plain ∧ s.pending = .config none)

/-- A way to read arguments that reads the words of options by the same step. -/
def ReadsOptions {β : Type} (place : Place) (read : State → List String → Except Refusal β) :
    Prop :=
  ∀ s word rest, s.afterDashes = false → IsOptionWord s word →
    read s (word :: rest) = optionStep place s word >>= fun s => read s rest

theorem readBefore_readsOptions : ReadsOptions none readBefore := by
  intro s word rest hdashes hword
  rw [readBefore, hdashes, if_neg Bool.false_ne_true]
  unfold optionStep
  rcases hword with ⟨letters, h⟩ | ⟨name, value?, h⟩ | ⟨h, hpending⟩
  · rw [h]
  · rw [h]
  · simp only [h, hpending, if_true, ok_bind, hdashes]

theorem readBehind_readsOptions (command : CommandName) :
    ReadsOptions (some command) fun s words => words.foldlM (readBehind command) s := by
  intro s word rest hdashes hword
  simp only [List.foldlM_cons]
  congr 1
  unfold readBehind optionStep
  rw [hdashes, if_neg Bool.false_ne_true]
  rcases hword with ⟨letters, h⟩ | ⟨name, value?, h⟩ | ⟨h, hpending⟩
  · rw [h]
  · rw [h]
  · simp only [h, hpending, if_true]

section

variable {β : Type} {place : Place} {read : State → List String → Except Refusal β} {s : State}

/-- An option that waits for its path is given it by the next word. -/
theorem ReadsOptions.read_apart (hread : ReadsOptions place read) {word path : String}
    (count : State → State) (hcount : ∀ s, (count s).afterDashes = s.afterDashes)
    (hdashes : s.afterDashes = false) (hword : IsOptionWord s word) (hplain : IsPlain path)
    (hwaits : optionStep place s word
      = s.settle place >>= fun s => .ok { count s with pending := .config none })
    (rest : List String) :
    read s ([word, path] ++ rest)
      = [word, path].foldlM (optionStep place) s >>= fun s => read s rest := by
  show read s (word :: path :: rest) = _
  rw [hread s word _ hdashes hword, List.foldlM_cons, bind_assoc]
  refine bind_congr_ok fun s' hs' => ?_
  rw [hwaits] at hs'
  obtain ⟨t, hsettle, hwaiting⟩ := bind_eq_ok_iff.mp hs'
  obtain rfl := Except.ok.inj hwaiting
  have hdashes' : (count t).afterDashes = false :=
    (hcount t).trans ((State.settle_eq_ok hsettle).2.trans hdashes)
  refine (hread { count t with pending := .config none } path rest hdashes'
    (Or.inr (Or.inr ⟨Word.of_plain hplain, rfl⟩))).trans ?_
  simp only [List.foldlM_cons, List.foldlM_nil, bind_pure]

theorem ReadsOptions.read_one (hread : ReadsOptions place read) {word : String}
    (hdashes : s.afterDashes = false) (hword : IsOptionWord s word) (rest : List String) :
    read s ([word] ++ rest) = [word].foldlM (optionStep place) s >>= fun s => read s rest := by
  show read s (word :: rest) = _
  rw [hread s word rest hdashes hword]
  simp only [List.foldlM_cons, List.foldlM_nil, bind_pure]

theorem ReadsOptions.read_option (hread : ReadsOptions place read) {words : List String}
    {option : GlobalOption} (h : Spells words option) (hdashes : s.afterDashes = false)
    (rest : List String) :
    read s (words ++ rest) = words.foldlM (optionStep place) s >>= fun s => read s rest := by
  cases h with
  | letters n => exact hread.read_one hdashes (Or.inl ⟨_, Word.of_flags n⟩) rest
  | verbose => exact hread.read_one hdashes (Or.inr (Or.inl ⟨_, _, rfl⟩)) rest
  | shortApart n hplain =>
      refine hread.read_apart (State.addFlags n) ?_ hdashes
        (Or.inl ⟨_, Word.of_cluster n [] (by decide)⟩) hplain
        (optionStep_cluster_waits place s n) rest
      intro s
      unfold State.addFlags
      split <;> rfl
  | shortSigned n path =>
      exact hread.read_one hdashes (Or.inl ⟨_, Word.of_cluster n _ (by decide)⟩) rest
  | shortJoined n hne hsign =>
      exact hread.read_one hdashes (Or.inl ⟨_, Word.of_cluster n _ (by decide)⟩) rest
  | longApart hplain =>
      exact hread.read_apart id (fun _ => rfl) hdashes (Or.inr (Or.inl ⟨_, _, rfl⟩)) hplain
        optionStep_long_waits rest
  | longSigned path =>
      exact hread.read_one hdashes (Or.inr (Or.inl ⟨_, _, Word.of_longSigned path⟩)) rest

/-- **Options are read alike** before the command and behind it. -/
theorem ReadsOptions.read_options (hread : ReadsOptions place read) {words : List String}
    {options : List GlobalOption} (h : SpellsAll words options) (hs : s.Open)
    (rest : List String) :
    read s (words ++ rest) = words.foldlM (optionStep place) s >>= fun s => read s rest := by
  induction h generalizing s with
  | nil => rfl
  | @cons words later option options hword _ ih =>
      rw [List.append_assoc, hread.read_option hword hs.noDashes, List.foldlM_append, bind_assoc]
      exact bind_congr_ok fun t ht => ih (foldlM_isOpen hword hs ht)

end

/-! ## Values -/

/-- The words that spell the values of a command: two dashes may stand in front of some of them, and
the others do not look like options. -/
inductive SpellsValues : List String → List String → Prop where
  | plain {values : List String} : (∀ value ∈ values, IsPlain value) → SpellsValues values values
  | dashed {front back : List String} :
      (∀ value ∈ front, IsPlain value) → SpellsValues (front ++ "--" :: back) (front ++ back)

/-- A command can be given so many values. -/
def Admits (command : CommandName) (n : Nat) : Prop :=
  match command with
  | .pick => n = 0
  | .list => n = 0
  | .check => n ≤ 1
  | .which => True

theorem Admits.mono {command : CommandName} {n m : Nat} (h : Admits command n) (hle : m ≤ n) :
    Admits command m := by
  unfold Admits at *
  cases command <;> first | trivial | omega

/-- The state behind some values: the first one has settled what was pending. -/
def withValues (command : CommandName) (s : State) (values : List String) (dashed : Bool) :
    Except Refusal State :=
  if values = [] then .ok { s with afterDashes := dashed }
  else s.settle (some command) >>= fun s =>
    .ok { s with pending := .values values, afterDashes := dashed }

section

variable {command : CommandName} {s : State}

theorem State.Open.settle_dashed (hs : s.Open) (place : Place) (dashed : Bool) :
    ({ s with afterDashes := dashed } : State).settle place
      = s.settle place >>= fun s => .ok { s with afterDashes := dashed } := by
  rcases hs.ready with hnothing | ⟨path, hpath⟩
  · rw [State.settle_of_nothing place hnothing, ok_bind]
    exact State.settle_of_nothing place hnothing
  · simp only [State.settle, hpath, State.setConfig]
    split
    · rfl
    · split <;> rfl

theorem readBehind_value {value : String} {dashed : Bool} (h : dashed = true ∨ IsPlain value)
    (hdashed : s.afterDashes = dashed) (hpending : s.pending ≠ .config none) :
    readBehind command s value = readValue command value s := by
  unfold readBehind
  by_cases hafter : s.afterDashes = true
  · rw [if_pos hafter]
  · rcases h with rfl | h
    · exact absurd hdashed hafter
    · rw [if_neg hafter, Word.of_plain h]
      exact if_neg hpending

/-- The first value settles what was pending. -/
theorem readValue_first {value : String} (hadmits : Admits command 1) (hvalues : s.values = [])
    (hready : s.pending = .nothing ∨ ∃ path, s.pending = .config (some path)) :
    readValue command value s
      = s.settle (some command) >>= fun s => .ok { s with pending := .values [value] } := by
  unfold readValue
  cases command with
  | pick => exact absurd hadmits Nat.one_ne_zero
  | list => exact absurd hadmits Nat.one_ne_zero
  | check =>
      rcases hready with hnothing | ⟨path, hpath⟩
      · simp only [hnothing, hvalues]
        rfl
      · simp only [hpath, hvalues]
        rfl
  | which =>
      rcases hready with hnothing | ⟨path, hpath⟩
      · simp only [hnothing]
        rfl
      · simp only [hpath]
        rfl

theorem withValues_value (hs : s.Open) {values : List String} {value : String} {dashed : Bool}
    (hadmits : Admits command (values.length + 1)) (h : dashed = true ∨ IsPlain value) :
    (withValues command s values dashed >>= fun s => readBehind command s value)
      = withValues command s (values ++ [value]) dashed := by
  unfold withValues
  rw [if_neg (List.append_ne_nil_of_right_ne_nil values (List.cons_ne_nil value []))]
  by_cases hvalues : values = []
  · subst hvalues
    rw [if_pos rfl, ok_bind]
    calc readBehind command { s with afterDashes := dashed } value
        = readValue command value { s with afterDashes := dashed } :=
          readBehind_value h rfl hs.not_waiting
      _ = ({ s with afterDashes := dashed } : State).settle (some command) >>= fun s =>
            .ok { s with pending := .values [value] } :=
          readValue_first hadmits hs.noValues hs.ready
      _ = s.settle (some command) >>= fun s =>
            .ok { s with pending := .values [value], afterDashes := dashed } := by
          rw [hs.settle_dashed, bind_assoc]
          rfl
  · rw [if_neg hvalues, bind_assoc]
    refine bind_congr_ok fun t _ => ?_
    rw [ok_bind, readBehind_value h rfl (by simp)]
    cases command with
    | pick => exact absurd hadmits (Nat.succ_ne_zero _)
    | list => exact absurd hadmits (Nat.succ_ne_zero _)
    | check =>
        have hlength := List.length_pos_iff.mpr hvalues
        unfold Admits at hadmits
        omega
    | which => rfl

theorem withValues_values (hs : s.Open) {dashed : Bool} (more : List String) {values : List String}
    (hadmits : Admits command (values.length + more.length))
    (h : dashed = true ∨ ∀ value ∈ more, IsPlain value) :
    (withValues command s values dashed >>= fun s => more.foldlM (readBehind command) s)
      = withValues command s (values ++ more) dashed := by
  induction more generalizing values with
  | nil =>
      rw [List.append_nil]
      exact bind_pure _
  | cons value more ih =>
      have hlength : values.length + (value :: more).length
          = (values ++ [value]).length + more.length := by
        simp only [List.length_append, List.length_cons, List.length_nil]
        omega
      have hvalue : dashed = true ∨ IsPlain value := h.imp_right fun h => h value List.mem_cons_self
      have hmore : dashed = true ∨ ∀ value ∈ more, IsPlain value :=
        h.imp_right fun h other hother => h other (List.mem_cons_of_mem _ hother)
      rw [hlength] at hadmits
      calc withValues command s values dashed >>=
              (fun s => (value :: more).foldlM (readBehind command) s)
          = (withValues command s values dashed >>= fun s => readBehind command s value)
              >>= fun s => more.foldlM (readBehind command) s := (bind_assoc _ _ _).symm
        _ = withValues command s (values ++ [value]) dashed
              >>= fun s => more.foldlM (readBehind command) s := by
            rw [withValues_value hs (hadmits.mono (by simp)) hvalue]
        _ = withValues command s (values ++ value :: more) dashed := by
            rw [ih hadmits hmore, List.append_assoc]
            rfl

theorem withValues_dashes (values : List String) :
    (withValues command s values false >>= fun s => readBehind command s "--")
      = withValues command s values true := by
  unfold withValues
  split
  · rfl
  · rw [bind_assoc]
    rfl

theorem withValues_settle (hs : s.Open) {values : List String} (hnonempty : "" ∉ values)
    (dashed : Bool) :
    (withValues command s values dashed >>= State.settle (some command))
      = s.settle (some command) >>= fun s =>
        .ok { s with values := values, afterDashes := dashed } := by
  unfold withValues
  by_cases hvalues : values = []
  · rw [if_pos hvalues, ok_bind, hs.settle_dashed, hvalues]
    refine bind_congr_ok fun t ht => ?_
    rw [← (hs.settle ht).1.noValues]
  · rw [if_neg hvalues, bind_assoc]
    refine bind_congr_ok fun t ht => ?_
    obtain ⟨hopen, hnothing⟩ := hs.settle ht
    have hcontains : values.contains "" = false := by
      rw [← Bool.not_eq_true, List.contains_iff_mem]
      exact hnonempty
    rw [ok_bind]
    simp only [State.settle, hcontains, hopen.noValues, List.nil_append, ← hnothing]
    rfl

end

/-- **Reading values and settling** is settling and taking the values. -/
theorem foldlM_values {command : CommandName} {words values : List String}
    (h : SpellsValues words values) (hadmits : Admits command values.length)
    (hnonempty : "" ∉ values) :
    ∃ dashed, ∀ s : State, s.Open →
      (words.foldlM (readBehind command) s >>= State.settle (some command))
        = s.settle (some command) >>= fun s =>
          .ok { s with values := values, afterDashes := dashed } := by
  have hstart (s : State) (hs : s.Open) : withValues command s [] false = .ok s := by
    show Except.ok { s with afterDashes := false } = Except.ok s
    rw [← hs.noDashes]
  cases h with
  | plain hplain =>
      refine ⟨false, fun s hs => ?_⟩
      have hread : (withValues command s [] false >>= fun s => words.foldlM (readBehind command) s)
          = withValues command s ([] ++ words) false :=
        withValues_values hs words (by rwa [List.length_nil, Nat.zero_add]) (Or.inr hplain)
      rw [hstart s hs, ok_bind, List.nil_append] at hread
      rw [hread, withValues_settle hs hnonempty]
  | @dashed front back hplain =>
      refine ⟨true, fun s hs => ?_⟩
      rw [List.length_append] at hadmits
      have hfront : (withValues command s [] false >>= fun s => front.foldlM (readBehind command) s)
          = withValues command s ([] ++ front) false :=
        withValues_values hs front (hadmits.mono (by simp)) (Or.inr hplain)
      rw [hstart s hs, ok_bind, List.nil_append] at hfront
      have hread : (front ++ "--" :: back).foldlM (readBehind command) s
          = withValues command s (front ++ back) true := by
        rw [List.foldlM_append, hfront]
        simp only [List.foldlM_cons]
        rw [← bind_assoc, withValues_dashes, withValues_values hs back hadmits (Or.inl rfl)]
      rw [hread, withValues_settle hs hnonempty]

end CommandLine

end GlyphBook
