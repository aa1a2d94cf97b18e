import StorageBridge.Proofs.InFlight

/-!
Bursts of accepted requests. A burst is as long as its first request asks, whatever the others ask and
whatever is refused or retired in between. The ring counts it down, and hands the backend one slot
less than the burst has.
-/

set_option autoImplicit false

namespace StorageBridge

-- the low five bits of the first parameter, where 0 stands for 32
def Request.burstLength (request : Request) : Nat :=
  if request.param1 &&& 0x1F = 0 then 32 else (request.param1 &&& 0x1F).toNat

theorem Request.burst_length_wraps (request : Request) :
    0 < request.burstLength ∧ request.burstLength ≤ 32 ∧
      (SlotIndex.wrap request.param1).val = request.burstLength % 32 := by
  have masked : (request.param1 &&& 0x1F).toNat = request.param1.toNat % 32 :=
    (UInt8.toNat_and _ _).trans (Nat.and_two_pow_sub_one_eq_mod _ 5)
  have wrapped : (SlotIndex.wrap request.param1).val = request.param1.toNat % 32 := rfl
  by_cases zero : request.param1 &&& 0x1F = 0
  · have none : request.param1.toNat % 32 = 0 := by rw [← masked, zero]; rfl
    simp [burstLength, zero, wrapped, none]
  · have some : request.param1.toNat % 32 ≠ 0 := by
      rw [← masked]
      exact fun same => zero (UInt8.toNat_inj.mp same)
    rw [burstLength, if_neg zero, wrapped, masked]
    omega

-- How accepted requests fall into bursts. The last burst may still be open.
structure Bursts (accepted : List Request) (ended : List (List Request)) (current : List Request) : Prop where
  split : accepted = ended.flatten ++ current
  full : ∀ burst ∈ ended, ∃ first rest, burst = first :: rest ∧ burst.length = first.burstLength
  short : ∀ first rest, current = first :: rest → current.length < first.burstLength

namespace Bursts

variable {accepted : List Request} {ended : List (List Request)} {current : List Request}

theorem initial : Bursts [] [] [] :=
  ⟨rfl, by simp, by simp⟩

theorem ended_le (bursts : Bursts accepted ended current) : ended.length ≤ accepted.length := by
  have shorter (bursts : List (List Request)) (nonempty : ∀ burst ∈ bursts, burst ≠ []) :
      bursts.length ≤ bursts.flatten.length := by
    induction bursts with
    | nil => simp
    | cons burst rest ih =>
        have here := List.length_pos_iff.mpr (nonempty burst (by simp))
        have there := ih fun other member => nonempty other (by simp [member])
        simp only [List.flatten_cons, List.length_append, List.length_cons]
        omega
  have nonempty : ∀ burst ∈ ended, burst ≠ [] := by
    intro burst member
    obtain ⟨first, rest, rfl, -⟩ := bursts.full burst member
    simp
  have flat := shorter ended nonempty
  rw [bursts.split, List.length_append]
  omega

-- The bursts follow from the requests alone.
theorem unique {ended' : List (List Request)} {current' : List Request} (one : Bursts accepted ended current)
    (other : Bursts accepted ended' current') : ended = ended' ∧ current = current' := by
  -- a full burst cannot begin where an open one does
  have apart {accepted current : List Request} {burst : List Request} {later : List (List Request)} {last : List Request}
      (open_ : Bursts accepted [] current) (closed : Bursts accepted (burst :: later) last) : False := by
    obtain ⟨first, rest, rfl, long⟩ := closed.full burst (by simp)
    have same : current = first :: (rest ++ (later.flatten ++ last)) := by
      simpa using open_.split.symm.trans closed.split
    have less := open_.short first _ same
    rw [same, ← long] at less
    simp only [List.length_cons, List.length_append] at less
    omega
  induction ended generalizing accepted ended' with
  | nil =>
      cases ended' with
      | nil => exact ⟨rfl, by simpa using one.split.symm.trans other.split⟩
      | cons burst later => exact (apart one other).elim
  | cons burst rest ih =>
      cases ended' with
      | nil => exact (apart other one).elim
      | cons burst' rest' =>
          obtain ⟨first, more, rfl, long⟩ := one.full burst (by simp)
          obtain ⟨first', more', rfl, long'⟩ := other.full burst' (by simp)
          have same : first :: more ++ (rest.flatten ++ current) = first' :: more' ++ (rest'.flatten ++ current') := by
            simpa using one.split.symm.trans other.split
          obtain rfl : first = first' := (List.cons.inj same).1
          obtain ⟨begun, onward⟩ := List.append_inj same (long.trans long'.symm)
          have left : Bursts (rest.flatten ++ current) rest current :=
            ⟨rfl, fun other member => one.full other (by simp [member]), one.short⟩
          have right : Bursts (rest.flatten ++ current) rest' current' :=
            ⟨onward, fun burst member => other.full burst (by simp [member]), other.short⟩
          obtain ⟨rfl, rfl⟩ := ih left right
          exact ⟨by rw [begun], rfl⟩

-- One more request ends the burst or leaves it open, by the length that its first request asks.
theorem extend (bursts : Bursts accepted ended current) {request first : Request} {rest : List Request}
    (burst : current ++ [request] = first :: rest) :
    (first :: rest).length ≤ first.burstLength ∧
      ((first :: rest).length = first.burstLength → Bursts (accepted ++ [request]) (ended ++ [first :: rest]) []) ∧
      ((first :: rest).length < first.burstLength → Bursts (accepted ++ [request]) ended (first :: rest)) := by
  have split : accepted ++ [request] = ended.flatten ++ (first :: rest) := by
    rw [bursts.split, List.append_assoc, burst]
  refine ⟨?_, fun long => ⟨?_, ?_, by simp⟩, fun less => ⟨split, bursts.full, ?_⟩⟩
  · cases current with
    | nil =>
        obtain ⟨rfl, rfl⟩ : request = first ∧ [] = rest := by simpa using burst
        exact request.burst_length_wraps.1
    | cons opener more =>
        obtain ⟨rfl, rfl⟩ : opener = first ∧ more ++ [request] = rest := by simpa using burst
        have open_ := bursts.short opener more rfl
        simp only [List.length_cons, List.length_append, List.length_nil] at open_ ⊢
        omega
  · simpa using split
  · intro other member
    rcases List.mem_append.mp member with earlier | here
    · exact bursts.full other earlier
    · exact ⟨first, rest, List.mem_singleton.mp here, by rw [List.mem_singleton.mp here, long]⟩
  · intro opener more same
    cases same
    exact less

end Bursts

-- The part of the ring that counts a burst down, after one command of it.
structure CountsDown (before : CommandRing) (length : Fin 32) (after : CommandRing) : Prop where
  counter : after.counter = (if before.busy then before.counter else length) - 1
  busy : after.busy = true ↔ after.counter ≠ 0
  issue : after.issue = if after.counter = 0 then before.issue else before.issue.next

theorem step_counts_down (ring : CommandRing) :
    ring.step.counter = ring.counter - 1 ∧
      ring.step.busy = (if ring.step.counter = 0 then false else ring.busy) ∧
      ring.step.issue = if ring.step.counter = 0 then ring.issue else ring.issue.next := by
  by_cases last : ring.counter - 1 = 0
  · simp [CommandRing.step, last]
  · simp [CommandRing.step, last]

theorem accepted_counts_down {before after : Ledger} {request : Request}
    (moves : before.Moves (.accepted request true) after) :
    CountsDown before.ring (SlotIndex.wrap request.param1) after.ring := by
  have applied : after = (before.accept request).handOff := moves.applied
  have armed : (before.accept request).ring.counter = (if before.ring.busy then before.ring.counter else SlotIndex.wrap request.param1) ∧
      (before.accept request).ring.busy = true ∧ (before.accept request).ring.issue = before.ring.issue := by
    cases running : before.ring.busy with
    | true =>
        cases needs : request.needsCommand <;>
          simp [Ledger.accept, needs, Ledger.arm, running, Ledger.submitted_ring, Ledger.clear, Ledger.occupy,
            CommandRing.clear, CommandRing.occupy, CommandRing.put]
    | false =>
        cases needs : request.needsCommand <;>
          simp [Ledger.accept, needs, Ledger.arm, running, Ledger.submitted_ring, Ledger.clear, Ledger.occupy,
            CommandRing.clear, CommandRing.occupy, CommandRing.put, CommandRing.arm]
  obtain ⟨counter, busy, issue⟩ := armed
  obtain ⟨stepped, running, moved⟩ := step_counts_down (before.accept request).ring
  rw [counter] at stepped
  rw [busy] at running
  rw [issue] at moved
  have ring : after.ring = (before.accept request).ring.step := congrArg Ledger.ring applied
  rw [ring]
  refine ⟨stepped, ?_, moved⟩
  rw [running]
  by_cases zero : (before.accept request).ring.step.counter = 0
  · simp [zero]
  · simp [zero]

-- what the burst that is open still lacks
def burstLeft : List Request → Nat
  | [] => 0
  | first :: rest => first.burstLength - (first :: rest).length

-- The ring of a controller that accepted these bursts and handed every one of their requests off.
structure Tracks (accepted : List Request) (ended : List (List Request)) (current : List Request)
    (ring : CommandRing) : Prop where
  counter : ring.counter.val = burstLeft current
  busy : ring.busy = true ↔ current ≠ []
  issue : ring.issue = Fin.ofNat 32 (accepted.length - ended.length)

-- What the ring shows once the request is taken, the last one so far of the burst that `first` opened.
structure BurstMoment (before : CommandRing) (first : Request) (rest : List Request) (after : CommandRing) : Prop where
  bound : (first :: rest).length ≤ first.burstLength
  counter : after.counter.val = (first.burstLength - (first :: rest).length) % 32
  busy : after.busy = true ↔ (first :: rest).length < first.burstLength
  issue : after.issue = if (first :: rest).length < first.burstLength then before.issue.next else before.issue

theorem counter_minus_one : ∀ counter : Fin 32, (counter - 1).val = (counter.val + 31) % 32 := by
  decide

namespace Tracks

variable {accepted : List Request} {ended : List (List Request)} {current : List Request} {ring after : CommandRing}

theorem busy_iff_counting (bursts : Bursts accepted ended current) (tracks : Tracks accepted ended current ring) :
    ring.busy = true ↔ ring.counter ≠ 0 := by
  have counting : ring.counter ≠ 0 ↔ burstLeft current ≠ 0 := by
    rw [← tracks.counter, ne_eq, Fin.ext_iff]
    rfl
  rw [tracks.busy, counting]
  cases current with
  | nil => simp [burstLeft]
  | cons first rest =>
      have less := bursts.short first rest rfl
      simp only [burstLeft, ne_eq, reduceCtorEq, not_false_eq_true, true_iff]
      omega

theorem moment (bursts : Bursts accepted ended current) (tracks : Tracks accepted ended current ring)
    {request first : Request} {rest : List Request} (burst : current ++ [request] = first :: rest)
    (counts : CountsDown ring (SlotIndex.wrap request.param1) after) : BurstMoment ring first rest after := by
  have bound := (bursts.extend burst).1
  have limit := first.burst_length_wraps.2.1
  have counter : after.counter.val = (first.burstLength - (first :: rest).length) % 32 := by
    rw [counts.counter, counter_minus_one]
    cases current with
    | nil =>
        obtain ⟨rfl, rfl⟩ : request = first ∧ [] = rest := by simpa using burst
        have idle : ring.busy = false := by simpa using tracks.busy
        have positive := request.burst_length_wraps.1
        rw [idle, if_neg Bool.false_ne_true, request.burst_length_wraps.2.2, List.length_singleton]
        omega
    | cons opener more =>
        obtain ⟨rfl, rfl⟩ : opener = first ∧ more ++ [request] = rest := by simpa using burst
        have running : ring.busy = true := by simpa using tracks.busy
        have short := bursts.short opener more rfl
        have left := tracks.counter
        rw [running, if_pos rfl]
        simp only [burstLeft, List.length_cons, List.length_append, List.length_nil] at *
        omega
  have positive : 0 < (first :: rest).length := by simp
  have ends : after.counter = 0 ↔ ¬ (first :: rest).length < first.burstLength := by
    rw [Fin.ext_iff, counter, Fin.val_zero]
    omega
  refine ⟨bound, counter, ?_, ?_⟩
  · rw [counts.busy, ne_eq, ends, Decidable.not_not]
  · rw [counts.issue]
    by_cases more : (first :: rest).length < first.burstLength
    · rw [if_pos more, if_neg fun zero => ends.mp zero more]
    · rw [if_neg more, if_pos (ends.mpr more)]

theorem next_of_nat (count : Nat) : SlotIndex.next (Fin.ofNat 32 count) = Fin.ofNat 32 (count + 1) := by
  apply Fin.ext
  simp [SlotIndex.next, Fin.val_add]

theorem extend (bursts : Bursts accepted ended current) (tracks : Tracks accepted ended current ring)
    {request : Request} (counts : CountsDown ring (SlotIndex.wrap request.param1) after) :
    ∃ ended' current', Bursts (accepted ++ [request]) ended' current' ∧
      Tracks (accepted ++ [request]) ended' current' after := by
  obtain ⟨first, rest, burst⟩ := List.exists_cons_of_ne_nil (List.concat_ne_nil request current)
  obtain ⟨bound, onEnd, onward⟩ := bursts.extend burst
  have moment := tracks.moment bursts burst counts
  have limit := first.burst_length_wraps.2.1
  have fewer := bursts.ended_le
  by_cases more : (first :: rest).length < first.burstLength
  · refine ⟨ended, first :: rest, onward more, ?_, ?_, ?_⟩
    · rw [moment.counter, burstLeft, Nat.mod_eq_of_lt]
      have positive : 0 < (first :: rest).length := by simp
      omega
    · simpa using moment.busy.mpr more
    · rw [moment.issue, if_pos more, tracks.issue, next_of_nat, List.length_append, List.length_singleton]
      congr 1
      omega
  · have full : (first :: rest).length = first.burstLength := by omega
    refine ⟨ended ++ [first :: rest], [], onEnd full, ?_, ?_, ?_⟩
    · rw [moment.counter, full]
      simp [burstLeft]
    · simpa using fun running => more (moment.busy.mp running)
    · rw [moment.issue, if_neg more, tracks.issue]
      simp

end Tracks

-- Whatever is not accepted leaves the burst as it is.
theorem rejected_keeps_burst {before after : Ledger} {happening : Happening} (moves : before.Moves happening after)
    (rejected : happening.accepted? = none) :
    after.ring.counter = before.ring.counter ∧ after.ring.busy = before.ring.busy ∧
      after.ring.issue = before.ring.issue := by
  cases happening with
  | accepted request handedOff => cases rejected
  | retired slot =>
      have applied : after = before.retire slot := moves.applied
      rw [applied, Ledger.retire_ring]
      exact ⟨rfl, rfl, rfl⟩
  | other =>
      have applied : after = before := moves.applied
      rw [applied]
      exact ⟨rfl, rfl, rfl⟩

-- A request that is taken and not handed off is one whose pass stalled.
def HandsAll (happenings : List Happening) : Prop :=
  ∀ request, Happening.accepted request false ∉ happenings

theorem ledger_tracks {happenings : List Happening} {ledger : Ledger}
    (held : HandsAll happenings → ∃ ended current, Bursts (acceptedRequests happenings) ended current ∧
      Tracks (acceptedRequests happenings) ended current ledger.ring)
    {happening : Happening} {after : Ledger} (moves : ledger.Moves happening after)
    (handed : HandsAll (happenings ++ [happening])) :
    ∃ ended current, Bursts (acceptedRequests (happenings ++ [happening])) ended current ∧
      Tracks (acceptedRequests (happenings ++ [happening])) ended current after.ring := by
  obtain ⟨ended, current, bursts, tracks⟩ := held fun request member => handed request (List.mem_append_left _ member)
  by_cases rejected : happening.accepted? = none
  · have same : acceptedRequests (happenings ++ [happening]) = acceptedRequests happenings := by
      simp [acceptedRequests, rejected]
    obtain ⟨counter, busy, issue⟩ := rejected_keeps_burst moves rejected
    rw [same]
    exact ⟨ended, current, bursts, ⟨by rw [counter]; exact tracks.counter, by rw [busy]; exact tracks.busy,
      by rw [issue]; exact tracks.issue⟩⟩
  · cases happening with
    | accepted request handedOff =>
        cases handedOff with
        | true =>
            have longer : acceptedRequests (happenings ++ [.accepted request true]) =
                acceptedRequests happenings ++ [request] := by
              simp [acceptedRequests, Happening.accepted?]
            rw [longer]
            exact tracks.extend bursts (accepted_counts_down moves)
        | false => exact (handed request (by simp)).elim
    | retired slot => exact (rejected rfl).elim
    | other => exact (rejected rfl).elim

variable {β : Type} [Bus β]

def Step.stalls (step : Step β) : Bool :=
  match step.answer with
  | .stalled _ => true
  | _ => false

theorem answered_hands_off {step : Step β} (answered : step.stalls = false) (request : Request) :
    step.happening ≠ .accepted request false := by
  intro happened
  unfold Step.happening Event.happening at happened
  split at happened
  · unfold Happening.ofRequest at happened
    grind
  · rename_i stalled
    rw [Step.stalls, stalled] at answered
    cases answered
  · cases happened
  · cases happened

theorem run_tracks (bus : β) (settings : Settings) (events : List (Event β))
    (answered : ∀ step ∈ (Run.of (Controller.start bus settings) events).history, step.stalls = false) :
    let run := Run.of (Controller.start bus settings) events
    ∃ ended current, Bursts (acceptedRequests run.happenings) ended current ∧
      Tracks (acceptedRequests run.happenings) ended current run.controller.state.ring := by
  have tracked := ledger_induction
    (fun happenings ledger => HandsAll happenings → ∃ ended current, Bursts (acceptedRequests happenings) ended current ∧
      Tracks (acceptedRequests happenings) ended current ledger.ring)
    (Controller.start bus settings) (fun _ => ⟨[], [], .initial, ⟨rfl, by simp [Controller.ledger, Controller.start, State.initial, CommandRing.empty], rfl⟩⟩)
    (fun _ _ _ _ moves held handed => ledger_tracks held moves handed) events
  refine tracked fun request member => ?_
  obtain ⟨step, taken, happened⟩ := List.mem_map.mp member
  exact answered_hands_off (answered step taken) request happened

theorem accepted_requests_fall_into_bursts (bus : β) (settings : Settings) (events : List (Event β))
    (answered : ∀ step ∈ (Run.of (Controller.start bus settings) events).history, step.stalls = false) :
    let run := Run.of (Controller.start bus settings) events
    let accepted := acceptedRequests run.happenings
    let ring := run.controller.state.ring
    (∃ ended current, Bursts accepted ended current ∧
      (∀ ended' current', Bursts accepted ended' current' → ended' = ended ∧ current' = current) ∧
      (ring.busy = true ↔ current ≠ []) ∧
      (ring.busy = true ↔ ring.counter ≠ 0) ∧
      ended.length ≤ accepted.length ∧
      ring.issue = Fin.ofNat 32 (accepted.length - ended.length)) ∧
    ∀ earlier step later, run.history = earlier ++ step :: later →
      let sooner := acceptedRequests (earlier.map Step.happening)
      let before := step.before.state.ring
      let after := step.after.state.ring
      (∀ request handedOff, step.happening = .accepted request handedOff →
        ∃ ended current first rest, Bursts sooner ended current ∧ current ++ [request] = first :: rest ∧
          BurstMoment before first rest after) ∧
      (step.happening.accepted? = none →
        after.counter = before.counter ∧ after.busy = before.busy ∧ after.issue = before.issue) := by
  intro run accepted ring
  obtain ⟨ended, current, bursts, tracks⟩ := run_tracks bus settings events answered
  refine ⟨⟨ended, current, bursts, fun _ _ other => other.unique bursts, tracks.busy, tracks.busy_iff_counting bursts,
    bursts.ended_le, tracks.issue⟩, ?_⟩
  intro earlier step later split sooner before after
  have moves := step_moves step
  refine ⟨fun request handedOff happened => ?_, fun rejected => rejected_keeps_burst moves rejected⟩
  obtain ⟨events', begins⟩ := Run.step_begins (Controller.start bus settings) events earlier step later split
  have taken : ∀ former ∈ earlier, former.stalls = false := by
    intro former member
    refine answered former ?_
    change former ∈ run.history
    rw [split]
    exact List.mem_append_left _ member
  obtain ⟨ended, current, bursts, tracks⟩ : ∃ ended current, Bursts sooner ended current ∧ Tracks sooner ended current before := by
    have reached := run_tracks bus settings events'
    rw [begins] at reached
    exact reached taken
  have handed : step.happening = .accepted request true := by
    cases handedOff with
    | true => exact happened
    | false =>
        have here : step ∈ run.history := by simp [split]
        exact (answered_hands_off (answered step here) request happened).elim
  rw [handed] at moves
  obtain ⟨first, rest, burst⟩ := List.exists_cons_of_ne_nil (List.concat_ne_nil request current)
  exact ⟨ended, current, first, rest, bursts, burst, tracks.moment bursts burst (accepted_counts_down moves)⟩

-- the pins of a ready backend, with the length of a burst
def Pins.opening (length : Byte) : Pins where
  shown address := if address = Reg.Transport.param1 then length else (Pins.asking 0).shown address

-- The second command of a burst of two asks for seven, and is the last of the two all the same.
theorem burst_of_two_ends :
    let run := Run.of (Controller.start (Pins.opening 2) .reference)
      [.plainPass, .completion 0, .hardware (.opening 7), .plainPass]
    (∀ step ∈ run.history, step.stalls = false) ∧ (acceptedRequests run.happenings).length = 2 ∧
      run.controller.state.ring.issue = 1 ∧
      ∃ ended, Bursts (acceptedRequests run.happenings) ended [] ∧ ended.length = 1 := by
  intro run
  have counted (ended : Nat) (fewer : ended ≤ 2) (issued : 1 = (2 - ended) % 32) : ended = 1 := by omega
  have answered : ∀ step ∈ run.history, step.stalls = false := by
    have all : run.history.all (fun step => !step.stalls) = true := by decide +kernel
    intro step member
    simpa using List.all_eq_true.mp all step member
  have two : (acceptedRequests run.happenings).length = 2 := by decide +kernel
  have issue : run.controller.state.ring.issue = 1 := by decide +kernel
  have idle : run.controller.state.ring.busy = false := by decide +kernel
  obtain ⟨⟨ended, current, bursts, -, busy, -, fewer, issued⟩, -⟩ :=
    accepted_requests_fall_into_bursts (Pins.opening 2) .reference _ answered
  simp only [run] at two issue idle answered ⊢
  rw [idle] at busy
  rw [two] at fewer issued
  rw [issue] at issued
  obtain rfl : current = [] := by simpa using busy
  exact ⟨answered, two, issue, ended, bursts, counted ended.length fewer (congrArg Fin.val issued)⟩

end StorageBridge
