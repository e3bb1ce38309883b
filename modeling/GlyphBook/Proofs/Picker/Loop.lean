import GlyphBook.Picker.Session
import GlyphBook.Proofs.Picker.Invariant
import Mathlib.Logic.Basic

/-!
# The loop of the picker is a walk

On a terminal that does not fail, the loop of the picker is compared with the walk along a line
that its key presses make (`Walk`). Two facts carry the comparison. Any number of events after
which the picker goes on only moves it to another place, the one that the walk reaches
(`loop_through`): there the invariant of the picker is used, since the place of the walk is the
highlight of a sound picker. And the first other event ends the loop (`loop_chooses`,
`loop_cancels`). Every list of events consists of the former up to its end or up to one of the
latter (`goesOn_or_split`), so these lemmas decide every run.
-/

namespace GlyphBook

/-! ## Walks of several steps -/

namespace Walk

/-- The place that actions lead to from `s` on a line of `n` places. -/
def place (n s : Nat) (actions : List Action) : Nat := actions.foldl (move n) s

theorem place_lt {n : Nat} : ∀ {s : Nat} (actions : List Action), s < n → place n s actions < n
  | _, [], h => h
  | _, action :: actions, h => place_lt actions (move_lt h action)

theorem place_append (n s : Nat) (first second : List Action) :
    place n s (first ++ second) = place n (place n s first) second :=
  List.foldl_append

theorem place_downs {n s : Nat} (h : s < n) (m : Nat) :
    place n s (List.replicate m .down) = min (s + m) (n - 1) := by
  induction m generalizing s with
  | zero => simp only [List.replicate_zero, place, List.foldl_nil]; omega
  | succ m ih =>
      have hmove : move n s .down < n := move_lt h .down
      have hstep : place n s (List.replicate (m + 1) .down)
          = place n (move n s .down) (List.replicate m .down) := by
        rw [List.replicate_succ]
        rfl
      rw [hstep, ih hmove, move]
      omega

theorem place_ups (n s m : Nat) : place n s (List.replicate m .up) = s - m := by
  induction m generalizing s with
  | zero => rfl
  | succ m ih =>
      have hstep : place n s (List.replicate (m + 1) .up)
          = place n (move n s .up) (List.replicate m .up) := by
        rw [List.replicate_succ]
        rfl
      rw [hstep, ih, move]
      omega

/-- A walk goes through actions that do not end it. -/
theorem run_append {n s : Nat} {before : List Action} (later : List Action)
    (h : ∀ action ∈ before, action ≠ .select ∧ action ≠ .quit) :
    run n s (before ++ later) = run n (place n s before) later := by
  induction before generalizing s with
  | nil => rfl
  | cons action before ih =>
      obtain ⟨hhead, htail⟩ := List.forall_mem_cons.mp h
      have hstep : run n s (action :: (before ++ later))
          = run n (move n s action) (before ++ later) := by
        cases action with
        | select => exact absurd rfl hhead.1
        | quit => exact absurd rfl hhead.2
        | _ => rfl
      rw [List.cons_append, hstep, ih htail]
      rfl

end Walk

/-! ## Keys that end a session -/

/-- Keys that choose. -/
def Key.Chooses (key : Key) : Prop := key.code = .enter

/-- Keys that give up; other modifiers than the control key make no difference. -/
def Key.Cancels (key : Key) : Prop :=
  key.code = .char 'q' ∨ key.code = .escape
    ∨ (key.code = .char 'c' ∧ key.modifiers.control = true)

theorem Action.ofKey_eq_select_iff {key : Key} : ofKey key = .select ↔ key.Chooses := by
  unfold ofKey Key.Chooses
  constructor
  · intro h
    split at h
    · cases h
    · split at h <;> simp_all
  · intro h
    simp [h]

theorem Action.ofKey_eq_quit_iff {key : Key} : ofKey key = .quit ↔ key.Cancels := by
  unfold ofKey Key.Cancels
  constructor
  · intro h
    split at h
    · next hc => exact Or.inr (Or.inr ⟨hc.2, hc.1⟩)
    · split at h <;> simp_all
  · rintro (h | h | ⟨h, hcontrol⟩)
    · simp [h]
    · simp [h]
    · simp [h, hcontrol]

/-- What a key asks for; a key that is not named here asks for nothing. -/
inductive Key.Asks (key : Key) : Action → Prop
  | down (h : key.code = .down ∨ key.code = .char 'j') : Asks key .down
  | up (h : key.code = .up ∨ key.code = .char 'k') : Asks key .up
  | top (h : key.code = .home ∨ key.code = .char 'g') : Asks key .top
  | bottom (h : key.code = .endKey ∨ key.code = .char 'G') : Asks key .bottom
  | select (h : key.Chooses) : Asks key .select
  | quit (h : key.Cancels) : Asks key .quit

theorem Action.ofKey_eq_iff {key : Key} {action : Action} (h : action ≠ .ignore) :
    ofKey key = action ↔ key.Asks action := by
  constructor
  · rintro rfl
    cases haction : ofKey key with
    | select => exact .select (ofKey_eq_select_iff.mp haction)
    | quit => exact .quit (ofKey_eq_quit_iff.mp haction)
    | ignore => exact absurd haction h
    | down => exact .down (by unfold ofKey at haction; grind)
    | up => exact .up (by unfold ofKey at haction; grind)
    | top => exact .top (by unfold ofKey at haction; grind)
    | bottom => exact .bottom (by unfold ofKey at haction; grind)
  · intro hasks
    cases hasks with
    | select hkey => exact ofKey_eq_select_iff.mpr hkey
    | quit hkey => exact ofKey_eq_quit_iff.mpr hkey
    | down hkey => rcases hkey with hkey | hkey <;> simp [ofKey, hkey]
    | up hkey => rcases hkey with hkey | hkey <;> simp [ofKey, hkey]
    | top hkey => rcases hkey with hkey | hkey <;> simp [ofKey, hkey]
    | bottom hkey => rcases hkey with hkey | hkey <;> simp [ofKey, hkey]

namespace TerminalEvent

theorem pressed?_eq_some_iff {event : TerminalEvent} {key : Key} :
    event.pressed? = some key ↔ event = .key key ∧ key.motion = .press := by
  cases event with
  | key pressed =>
      rw [pressed?, TerminalEvent.key.injEq]
      split
      · next hpress =>
          rw [Option.some.injEq]
          exact ⟨fun h => ⟨h, h ▸ hpress⟩, And.left⟩
      · next hnot =>
          constructor
          · intro h
            cases h
          · rintro ⟨rfl, hpress⟩
            exact absurd hpress hnot
  | _ => simp [pressed?]

def presses (events : List TerminalEvent) : List Key := events.filterMap pressed?

def actions (events : List TerminalEvent) : List Action := (presses events).map Action.ofKey

/-- An event after which the picker goes on. -/
def GoesOn (event : TerminalEvent) : Prop :=
  ∀ key, event.pressed? = some key → ¬ key.Chooses ∧ ¬ key.Cancels

theorem mem_presses {events : List TerminalEvent} {key : Key} :
    key ∈ presses events ↔ ∃ event ∈ events, event.pressed? = some key :=
  List.mem_filterMap

theorem presses_append (first second : List TerminalEvent) :
    presses (first ++ second) = presses first ++ presses second :=
  List.filterMap_append

theorem actions_append (first second : List TerminalEvent) :
    actions (first ++ second) = actions first ++ actions second := by
  rw [actions, presses_append, List.map_append]
  rfl

theorem actions_cons_of_pressed {event : TerminalEvent} {key : Key}
    (h : event.pressed? = some key) (events : List TerminalEvent) :
    actions (event :: events) = Action.ofKey key :: actions events := by
  rw [actions, presses, List.filterMap_cons_some h]
  rfl

theorem actions_cons_of_not_pressed {event : TerminalEvent} (h : event.pressed? = none)
    (events : List TerminalEvent) : actions (event :: events) = actions events := by
  rw [actions, presses, List.filterMap_cons_none h]
  rfl

theorem actions_filter (events : List TerminalEvent) :
    actions (events.filter fun event => event.pressed?.isSome) = actions events := by
  rw [actions, presses, List.filterMap_filter]
  congr 2
  funext event
  cases event.pressed? <;> rfl

/-- The picker goes on after events that ask for no action that ends it. -/
theorem goesOn_iff {events : List TerminalEvent} :
    (∀ event ∈ events, event.GoesOn) ↔
      ∀ action ∈ actions events, action ≠ .select ∧ action ≠ .quit := by
  constructor
  · intro h action haction
    obtain ⟨key, hkey, rfl⟩ := List.mem_map.mp haction
    obtain ⟨event, hevent, hpressed⟩ := mem_presses.mp hkey
    have hgoes := h event hevent key hpressed
    exact ⟨mt Action.ofKey_eq_select_iff.mp hgoes.1, mt Action.ofKey_eq_quit_iff.mp hgoes.2⟩
  · intro h event hevent key hpressed
    have haction := h _ (List.mem_map_of_mem (mem_presses.mpr ⟨event, hevent, hpressed⟩))
    exact ⟨mt Action.ofKey_eq_select_iff.mpr haction.1, mt Action.ofKey_eq_quit_iff.mpr haction.2⟩

/-- Events go on to their end, or up to one that is the press of an ending key. -/
theorem goesOn_or_split : ∀ events : List TerminalEvent,
    (∀ event ∈ events, event.GoesOn)
      ∨ ∃ before event after key, events = before ++ event :: after
        ∧ (∀ e ∈ before, e.GoesOn) ∧ event.pressed? = some key ∧ (key.Chooses ∨ key.Cancels)
  | [] => Or.inl fun _ h => (List.not_mem_nil h).elim
  | event :: events => by
      by_cases hgoes : event.GoesOn
      · rcases goesOn_or_split events with h | ⟨before, event', after, key, rfl, hbefore, hrest⟩
        · exact Or.inl (List.forall_mem_cons.mpr ⟨hgoes, h⟩)
        · exact Or.inr ⟨event :: before, event', after, key, rfl,
            List.forall_mem_cons.mpr ⟨hgoes, hbefore⟩, hrest⟩
      · simp only [GoesOn, not_forall, not_and_or, not_not] at hgoes
        obtain ⟨key, hpressed, hends⟩ := hgoes
        exact Or.inr ⟨[], event, events, key, rfl, fun _ h => (List.not_mem_nil h).elim, hpressed,
          hends⟩

end TerminalEvent

/-! ## The loop -/

/-- A terminal that does not fail, of any size at each step. -/
def Console.steady (size : Nat → Nat × Nat) : Console := ⟨size, fun _ => none⟩

/-- The steps of a loop that draws and reads `count` times. -/
def rounds : Nat → List Taken
  | 0 => []
  | count + 1 => ⟨.draw, none⟩ :: ⟨.read, none⟩ :: rounds count

namespace Picker

open TerminalEvent

variable {theme : Theme} {size : Nat → Nat × Nat}

/-- An event after which a picker goes on moves it to where the walk goes. -/
theorem receive_of_goesOn {p : Picker} (h : Sound theme p) {event : TerminalEvent}
    (hgoes : event.GoesOn) :
    ∃ q, p.receive event = (.proceed, q) ∧ Sound theme q
      ∧ q.selected = Walk.place icons.keys.length p.selected (actions [event]) := by
  cases hpressed : event.pressed? with
  | none =>
      refine ⟨p, by rw [receive, hpressed], h, ?_⟩
      rw [actions_cons_of_not_pressed hpressed]
      rfl
  | some key =>
      have hkey := hgoes key hpressed
      rw [actions_cons_of_pressed hpressed, receive, hpressed, ← h.keys_eq]
      rcases act_cases h.selected_lt (Action.ofKey key) with
        ⟨hselect, -⟩ | ⟨hquit, -⟩ | ⟨-, -, hact⟩
      · exact absurd (Action.ofKey_eq_select_iff.mp hselect) hkey.1
      · exact absurd (Action.ofKey_eq_quit_iff.mp hquit) hkey.2
      · exact ⟨_, hact, sound_moveTo h (Walk.move_lt h.selected_lt _), rfl⟩

theorem loop_cons (n : Nat) (p : Picker) (event : TerminalEvent) (later : List TerminalEvent) :
    loop (Console.steady size) n p (event :: later)
      = match (p.settled ((Console.steady size).area n)).receive event with
        | (.chosen id, _) => (rounds 1, .chosen id)
        | (.cancelled, _) => (rounds 1, .cancelled)
        | (.proceed, q) =>
          (rounds 1 ++ (loop (Console.steady size) (n + 2) q later).1,
            (loop (Console.steady size) (n + 2) q later).2) := by
  rw [loop.eq_def]
  simp only [Console.take, Console.steady]
  cases receive _ event with
  | mk outcome q => cases outcome <;> rfl

theorem loop_nil (n : Nat) (p : Picker) :
    loop (Console.steady size) n p [] = (rounds 1, .waiting) := by
  rw [loop.eq_def]
  rfl

/-- The loop goes through events after which the picker goes on, one round for each, and is then
at the place of the walk. -/
theorem loop_through (size : Nat → Nat × Nat) {before : List TerminalEvent}
    (hbefore : ∀ event ∈ before, event.GoesOn) (later : List TerminalEvent) {p : Picker}
    (h : Sound theme p) (n : Nat) :
    ∃ q n', Sound theme q
      ∧ q.selected = Walk.place icons.keys.length p.selected (actions before)
      ∧ loop (Console.steady size) n p (before ++ later)
        = (rounds before.length ++ (loop (Console.steady size) n' q later).1,
          (loop (Console.steady size) n' q later).2) := by
  induction before generalizing p n with
  | nil => exact ⟨p, n, h, rfl, rfl⟩
  | cons event before ih =>
      obtain ⟨hgoes, hrest⟩ := List.forall_mem_cons.mp hbefore
      obtain ⟨q, hreceive, hq, hselected⟩ :=
        receive_of_goesOn (sound_settled h ((Console.steady size).area n)) hgoes
      obtain ⟨q', n', hq', hselected', hloop⟩ := ih hrest hq (n + 2)
      refine ⟨q', n', hq', ?_, ?_⟩
      · rw [hselected', hselected, ← Walk.place_append, ← actions_append]
        rfl
      · rw [List.cons_append, loop_cons, hreceive]
        simp only [hloop]
        rfl

theorem loop_chooses (size : Nat → Nat × Nat) {p : Picker} (h : Sound theme p)
    {event : TerminalEvent} {key : Key} (hpressed : event.pressed? = some key)
    (hkey : key.Chooses) (later : List TerminalEvent) (n : Nat) :
    ∃ id, icons.keys[p.selected]? = some id
      ∧ loop (Console.steady size) n p (event :: later) = (rounds 1, .chosen id) := by
  have hlt := h.selected_lt
  have hreceive : (p.settled ((Console.steady size).area n)).receive event
      = (.chosen p.keys[p.selected], p.settled ((Console.steady size).area n)) := by
    rw [receive, hpressed]
    exact press_enter (sound_settled h _).selected_lt hkey
  refine ⟨p.keys[p.selected], ?_, ?_⟩
  · rw [← h.keys_eq]
    exact List.getElem?_eq_getElem hlt
  · rw [loop_cons, hreceive]

theorem loop_cancels {p : Picker} {event : TerminalEvent} {key : Key}
    (hpressed : event.pressed? = some key) (hkey : key.Cancels) (later : List TerminalEvent)
    (n : Nat) :
    loop (Console.steady size) n p (event :: later) = (rounds 1, .cancelled) := by
  have hreceive (q : Picker) : q.receive event = (.cancelled, q) := by
    rw [receive, hpressed]
    show q.act (Action.ofKey key) = _
    rw [Action.ofKey_eq_quit_iff.mpr hkey]
    rfl
  rw [loop_cons, hreceive]

theorem rounds_append (a b : Nat) : rounds a ++ rounds b = rounds (a + b) := by
  induction a with
  | zero => rw [Nat.zero_add]; rfl
  | succ a ih => rw [Nat.succ_add]; simp only [rounds, List.cons_append, ih]

/-! ## Whole runs -/

/-- The loop as it was started, on a terminal that does not fail, from step `n` on. -/
def runFrom (theme : Theme) (size : Nat → Nat × Nat) (n : Nat) (events : List TerminalEvent) :
    List Taken × Finish :=
  loop (Console.steady size) n (start theme) events

/-- The place to which events have moved the highlight. -/
def placeAfter (events : List TerminalEvent) : Nat :=
  Walk.place icons.keys.length 0 (actions events)

variable (theme : Theme) (size : Nat → Nat × Nat) (n : Nat)

/-- As long as the picker goes on, the loop reads every event and waits for another one. -/
theorem runFrom_of_goesOn {events : List TerminalEvent} (h : ∀ event ∈ events, event.GoesOn) :
    runFrom theme size n events = (rounds (events.length + 1), .waiting) := by
  obtain ⟨q, n', -, -, hloop⟩ := loop_through size h [] (sound_start theme) n
  rw [List.append_nil] at hloop
  rw [runFrom, hloop, loop_nil, rounds_append]

/-- The loop ends with the first press of a choosing key, and with the icon at the place where the
presses before it lead. -/
theorem runFrom_chooses {before : List TerminalEvent} {event : TerminalEvent} {key : Key}
    (hbefore : ∀ e ∈ before, e.GoesOn) (hpressed : event.pressed? = some key)
    (hkey : key.Chooses) (after : List TerminalEvent) :
    ∃ id, icons.keys[placeAfter before]? = some id
      ∧ runFrom theme size n (before ++ event :: after)
        = (rounds (before.length + 1), .chosen id) := by
  obtain ⟨q, n', hq, hselected, hloop⟩ :=
    loop_through size hbefore (event :: after) (sound_start theme) n
  obtain ⟨id, hid, hend⟩ := loop_chooses size hq hpressed hkey after n'
  refine ⟨id, ?_, ?_⟩
  · rw [hselected] at hid
    exact hid
  · rw [runFrom, hloop, hend, rounds_append]

/-- The loop ends with the first press of a cancelling key, without an icon. -/
theorem runFrom_cancels {before : List TerminalEvent} {event : TerminalEvent} {key : Key}
    (hbefore : ∀ e ∈ before, e.GoesOn) (hpressed : event.pressed? = some key)
    (hkey : key.Cancels) (after : List TerminalEvent) :
    runFrom theme size n (before ++ event :: after) = (rounds (before.length + 1), .cancelled) := by
  obtain ⟨q, n', -, -, hloop⟩ :=
    loop_through size hbefore (event :: after) (sound_start theme) n
  rw [runFrom, hloop, loop_cancels hpressed hkey, rounds_append]

/-- Moves in one direction end nothing: a choosing key behind them chooses the icon they lead to. -/
theorem runFrom_moves {events moves : List TerminalEvent} {event : TerminalEvent} {key : Key}
    {m : Nat} {direction : Action} (hevents : ∀ e ∈ events, e.GoesOn)
    (hmoves : actions moves = List.replicate m direction)
    (hdirection : direction ≠ .select ∧ direction ≠ .quit)
    (hpressed : event.pressed? = some key) (hkey : key.Chooses) (after : List TerminalEvent) :
    ∃ id, icons.keys[Walk.place icons.keys.length (placeAfter events)
        (List.replicate m direction)]? = some id
      ∧ (runFrom theme size n (events ++ moves ++ event :: after)).2 = .chosen id := by
  have hgoes : ∀ e ∈ moves, e.GoesOn := by
    rw [goesOn_iff, hmoves]
    intro action haction
    rwa [List.eq_of_mem_replicate haction]
  obtain ⟨id, hid, hrun⟩ := runFrom_chooses theme size n
    (List.forall_mem_append.mpr ⟨hevents, hgoes⟩) hpressed hkey after
  rw [placeAfter, actions_append, Walk.place_append, hmoves] at hid
  exact ⟨id, hid, by rw [hrun]⟩

/-- The loop goes on and waits exactly when no key press ends it. -/
theorem runFrom_waiting_iff {events : List TerminalEvent} :
    (runFrom theme size n events).2 = .waiting ↔
      ∀ key ∈ presses events, ¬ key.Chooses ∧ ¬ key.Cancels := by
  constructor
  · intro hwaiting key hkey
    rcases goesOn_or_split events with
      h | ⟨before, event, after, key', rfl, hbefore, hpressed, hends⟩
    · obtain ⟨event, hevent, hpressed⟩ := mem_presses.mp hkey
      exact h event hevent key hpressed
    · rcases hends with hchooses | hcancels
      · obtain ⟨id, -, hrun⟩ := runFrom_chooses theme size n hbefore hpressed hchooses after
        rw [hrun] at hwaiting
        cases hwaiting
      · rw [runFrom_cancels theme size n hbefore hpressed hcancels] at hwaiting
        cases hwaiting
  · intro h
    rw [runFrom_of_goesOn theme size n fun event hevent key hpressed =>
      h key (mem_presses.mpr ⟨event, hevent, hpressed⟩)]

/-- How the loop finishes when its walk stops. -/
inductive Finishes : Walk.Stop → Finish → Prop where
  | chosen {place : Nat} {id : IconId} :
      icons.keys[place]? = some id → Finishes (.chosen place) (.chosen id)
  | cancelled : Finishes .cancelled .cancelled
  | underWay {place : Nat} : place < icons.keys.length → Finishes (.underWay place) .waiting

theorem Finishes.unique {stop : Walk.Stop} {finish finish' : Finish} (h : Finishes stop finish)
    (h' : Finishes stop finish') : finish = finish' := by
  cases h with
  | chosen hid =>
      cases h' with
      | chosen hid' => rw [Option.some.inj (hid.symm.trans hid')]
  | cancelled => cases h'; rfl
  | underWay _ => cases h'; rfl

theorem finishes_runFrom (events : List TerminalEvent) :
    Finishes (Walk.run icons.keys.length 0 (actions events)) (runFrom theme size n events).2 := by
  rcases goesOn_or_split events with h | ⟨before, event, after, key, rfl, hbefore, hpressed, hends⟩
  · rw [runFrom_of_goesOn theme size n h, ← List.append_nil (actions events),
      Walk.run_append [] (goesOn_iff.mp h)]
    exact .underWay (Walk.place_lt _ keys_length_pos)
  · rw [actions_append, Walk.run_append _ (goesOn_iff.mp hbefore),
      actions_cons_of_pressed hpressed]
    rcases hends with hchooses | hcancels
    · obtain ⟨id, hid, hrun⟩ := runFrom_chooses theme size n hbefore hpressed hchooses after
      rw [hrun, Action.ofKey_eq_select_iff.mpr hchooses]
      exact .chosen hid
    · rw [runFrom_cancels theme size n hbefore hpressed hcancels,
        Action.ofKey_eq_quit_iff.mpr hcancels]
      exact .cancelled

/-- **The loop of the picker is the clamped walk of its key presses.** A press is the event of a key
that goes down, and `Key.Asks` lists what the keys ask for. On a terminal that does not fail,
whatever its size at each step:

* events that are no key presses make no difference to how the loop finishes;
* the loop finishes as the walk of the presses stops;
* the first choosing press ends it with the icon at the place where the walk is, the first
  cancelling press without an icon, and no event behind that press is read;
* it waits for another event exactly when no press ends it, and has then read all events;
* moves down or up, as many as there are, lead from any place that was reached to the place that
  many steps further, or to the last or first one. -/
theorem loop_walks (theme : Theme) (size : Nat → Nat × Nat) (n : Nat)
    (events : List TerminalEvent) :
    (∀ (event : TerminalEvent) (key : Key),
        event.pressed? = some key ↔ event = .key key ∧ key.motion = .press)
      ∧ (∀ (key : Key) (action : Action), action ≠ .ignore →
        (Action.ofKey key = action ↔ key.Asks action))
      ∧ (∀ size' n', (runFrom theme size' n' (events.filter fun event => event.pressed?.isSome)).2
        = (runFrom theme size n events).2)
      ∧ Finishes (Walk.run icons.keys.length 0 (actions events)) (runFrom theme size n events).2
      ∧ (∀ before event after key, events = before ++ event :: after →
          (∀ e ∈ before, e.GoesOn) → event.pressed? = some key →
          (key.Chooses → ∃ id, icons.keys[placeAfter before]? = some id
              ∧ runFrom theme size n events = (rounds (before.length + 1), .chosen id))
            ∧ (key.Cancels →
              runFrom theme size n events = (rounds (before.length + 1), .cancelled)))
      ∧ ((runFrom theme size n events).2 = .waiting ↔
          ∀ key ∈ presses events, ¬ key.Chooses ∧ ¬ key.Cancels)
      ∧ ((runFrom theme size n events).2 = .waiting →
          (runFrom theme size n events).1 = rounds (events.length + 1)
            ∧ placeAfter events < icons.keys.length
            ∧ ∀ m moves event after key, event.pressed? = some key → key.Chooses →
              (actions moves = List.replicate m .down →
                ∃ id, icons.keys[min (placeAfter events + m) (icons.keys.length - 1)]? = some id
                  ∧ (runFrom theme size n (events ++ moves ++ event :: after)).2 = .chosen id)
              ∧ (actions moves = List.replicate m .up →
                ∃ id, icons.keys[placeAfter events - m]? = some id
                  ∧ (runFrom theme size n (events ++ moves ++ event :: after)).2
                    = .chosen id)) := by
  refine ⟨fun _ _ => pressed?_eq_some_iff, fun _ _ => Action.ofKey_eq_iff, ?presses,
    finishes_runFrom theme size n events, ?ending, runFrom_waiting_iff theme size n, ?waiting⟩
  case presses =>
    intro size' n'
    have hpresses := finishes_runFrom theme size' n'
      (events.filter fun event => event.pressed?.isSome)
    rw [actions_filter] at hpresses
    exact hpresses.unique (finishes_runFrom theme size n events)
  case ending =>
    rintro before event after key rfl hbefore hpressed
    exact ⟨fun hkey => runFrom_chooses theme size n hbefore hpressed hkey after,
      fun hkey => runFrom_cancels theme size n hbefore hpressed hkey after⟩
  case waiting =>
    intro hwaiting
    have hgoes : ∀ event ∈ events, event.GoesOn := by
      intro event hevent key hpressed
      exact (runFrom_waiting_iff theme size n).mp hwaiting key
        (mem_presses.mpr ⟨event, hevent, hpressed⟩)
    have hlt : placeAfter events < icons.keys.length := Walk.place_lt _ keys_length_pos
    refine ⟨by rw [runFrom_of_goesOn theme size n hgoes], hlt, ?_⟩
    intro m moves event after key hpressed hkey
    refine ⟨fun hdown => ?_, fun hup => ?_⟩
    · have hchosen := runFrom_moves theme size n hgoes hdown (by simp) hpressed hkey after
      rwa [Walk.place_downs hlt] at hchosen
    · have hchosen := runFrom_moves theme size n hgoes hup (by simp) hpressed hkey after
      rwa [Walk.place_ups] at hchosen

end Picker

end GlyphBook
