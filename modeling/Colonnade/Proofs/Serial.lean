import Mathlib
import Colonnade.Gather
/-! # Executions run together behave as one after another

In whatever order the loop steps, the tasks of a gather hold the lock one after another in order,
and the loop passes only through states where the first executions ended as they would in series
(`Loop.Serial`). So a finished loop has the outcomes and machine of `Machine.gather`, and an
unfinished one can always step (`gather_serializes`).
-/

namespace Colonnade

/-! ## Executions one after another -/

theorem gather_length (m : Machine) (texts : List String) :
    (m.gather texts).1.length = texts.length := by
  induction texts generalizing m with
  | nil => rfl
  | cons t rest ih => simp [Machine.gather, ih]

/-- One more execution after a gather runs on the machine the gather left. -/
theorem gather_append (m : Machine) (texts : List String) (t : String) :
    m.gather (texts ++ [t]) =
      ((m.gather texts).1 ++ [((execute t).on (m.gather texts).2).1],
        ((execute t).on (m.gather texts).2).2) := by
  induction texts generalizing m with
  | nil => simp [Machine.gather]
  | cons s rest ih => simp [Machine.gather, ih]

/-! ## The loops a gather passes through -/

/-- Where the first task that has not ended stands; `idle` also says that no task after the ended
ones has started. -/
inductive Head where
  | idle
  | holding
  | woken
  deriving DecidableEq

namespace Head

def phase : Head → Phase
  | .idle => .fresh
  | .holding => .holding
  | .woken => .woken

/-- The first task in the lock's queue, when the first task not ended is the `d`-th: the `d`-th
itself once the lock was handed to it, and the one after it otherwise. -/
def firstWaiter (d : Nat) : Head → Nat
  | .woken => d
  | _ => d + 1

end Head

/-- Where the `i`-th task stands when the tasks before `outcomes.length` ended with `outcomes`,
the first `s` tasks have started, and the first task not ended stands at `head`. -/
def serialPhase (outcomes : List (Except Fault (List Value))) (s : Nat) (head : Head) (i : Nat) :
    Phase :=
  if h : i < outcomes.length then .done outcomes[i]
  else if i = outcomes.length then head.phase
  else if i < s then .queued else .fresh

section SerialPhase

variable {outcomes : List (Except Fault (List Value))} {s : Nat} {head : Head} {i : Nat}

theorem serialPhase_of_lt (h : i < outcomes.length) :
    serialPhase outcomes s head i = .done outcomes[i] := by
  simp [serialPhase, h]

theorem serialPhase_self : serialPhase outcomes s head outcomes.length = head.phase := by
  simp [serialPhase]

theorem serialPhase_of_gt (h : outcomes.length < i) :
    serialPhase outcomes s head i = if i < s then .queued else .fresh := by
  simp [serialPhase, Nat.not_lt_of_gt h, Nat.ne_of_gt h]

end SerialPhase

namespace Loop

/-- The loop in which the first `d` tasks of the gather of `texts` ended one after another, the
first `s` have started, and the first task not ended stands at `head`. -/
def serial (m : Machine) (texts : List String) (d s : Nat) (head : Head) : Loop where
  machine := (m.gather (texts.take d)).2
  phases := (List.range texts.length).map (serialPhase (m.gather (texts.take d)).1 s head)
  locked := decide (head = .holding)
  waiters := List.range' (head.firstWaiter d) (s - head.firstWaiter d)

end Loop

/-- The counts that describe a loop of `n` tasks: the ended tasks come first, then the started
ones, and the first task not ended has started exactly when a task after the ended ones has. -/
structure SerialIndex (n d s : Nat) (head : Head) : Prop where
  ended_le : d ≤ s
  started_le : s ≤ n
  idle_iff : head = .idle ↔ s = d

theorem SerialIndex.ended_le_length {n d s : Nat} {head : Head} (hidx : SerialIndex n d s head) :
    d ≤ n :=
  Nat.le_trans hidx.ended_le hidx.started_le

/-- Once the first task not ended has started, some started task has not ended. -/
theorem SerialIndex.ended_lt {n d s : Nat} {head : Head} (hidx : SerialIndex n d s head)
    (h : head ≠ .idle) : d < s :=
  Nat.lt_of_le_of_ne hidx.ended_le fun hds => h (hidx.idle_iff.2 hds.symm)

/-- A loop in which the tasks held the lock one after another, in the order given. -/
def Loop.Serial (m : Machine) (texts : List String) (L : Loop) : Prop :=
  ∃ d s head, SerialIndex texts.length d s head ∧ L = Loop.serial m texts d s head

section Serial

variable {m : Machine} {texts : List String} {d s : Nat} {head : Head}

theorem gather_take_length (hd : d ≤ texts.length) : (m.gather (texts.take d)).1.length = d := by
  rw [gather_length, List.length_take, Nat.min_eq_left hd]

theorem serial_phases_getElem? (i : Nat) :
    (Loop.serial m texts d s head).phases[i]? =
      if i < texts.length then some (serialPhase (m.gather (texts.take d)).1 s head i)
      else none := by
  simp only [Loop.serial, List.getElem?_map]
  split
  · rw [List.getElem?_range ‹_›]
    rfl
  · rw [List.getElem?_eq_none (by simp only [List.length_range]; omega)]
    rfl

/-- Setting one entry of a table read off `List.range` reads the table with that entry changed. -/
theorem map_range_set {α : Type} (f : Nat → α) (n j : Nat) (x : α) :
    ((List.range n).map f).set j x = (List.range n).map (fun i => if i = j then x else f i) := by
  apply List.ext_getElem?
  intro i
  by_cases hi : i < n
  · by_cases hij : i = j
    · subst hij
      simp [hi]
    · simp [List.getElem?_range hi, Ne.symm hij, hij]
  · have hnone : (List.range n)[i]? = none := List.getElem?_eq_none (by simpa using hi)
    simp [List.getElem?_set, hnone]
    omega

/-! ### What each kind of step does -/

section Pointwise

variable {n : Nat} {outs : List (Except Fault (List Value))} {i : Nat}

/-- Where the tasks stand once the `s`-th task asked for the lock. -/
theorem serialPhase_acquire (hlen : outs.length = d) (hidx : SerialIndex n d s head) :
    (if i = s then (if head = .idle then Phase.holding else .queued)
      else serialPhase outs s head i) =
      serialPhase outs (s + 1) (if head = .idle then .holding else head) i := by
  have hds := hidx.ended_le
  have hidle := hidx.idle_iff
  subst hlen
  cases head <;> simp only [serialPhase, Head.phase] at hidle ⊢ <;> split_ifs <;> simp_all <;>
    omega

/-- Where the tasks stand once the `d`-th task ended with `r`, the next one woken if it waits. -/
theorem serialPhase_release (hlen : outs.length = d) (hidx : SerialIndex n d s .holding)
    (r : Except Fault (List Value)) :
    (if d + 1 < s then
        (if i = d + 1 then Phase.woken
          else if i = d then .done r else serialPhase outs s .holding i)
      else if i = d then .done r else serialPhase outs s .holding i) =
      serialPhase (outs ++ [r]) s (if d + 1 < s then .woken else .idle) i := by
  have hds : d ≠ s := fun h => by cases hidx.idle_iff.2 h.symm
  have hle := hidx.ended_le
  subst hlen
  simp only [serialPhase, Head.phase, List.length_append, List.length_singleton]
  split_ifs <;> simp_all [List.getElem_append_left] <;> omega

/-- Where the tasks stand once the woken `d`-th task took the lock. -/
theorem serialPhase_resume (hlen : outs.length = d) :
    (if i = d then Phase.holding else serialPhase outs s .woken i) =
      serialPhase outs s .holding i := by
  subst hlen
  simp only [serialPhase, Head.phase]
  split_ifs <;> simp_all

end Pointwise

/-- The queue grows at its end by the task that asked last. -/
theorem range'_append_last {a s : Nat} (h : a ≤ s) :
    List.range' a (s - a) ++ [s] = List.range' a (s + 1 - a) := by
  rw [show s + 1 - a = s - a + 1 by omega, List.range'_concat]
  congr 2
  omega

theorem release_phases (L : Loop) (i : Nat) (r : Except Fault (List Value)) (m' : Machine) :
    (L.release i r m').phases = match L.waiters with
      | j :: _ => (L.phases.set i (.done r)).set j .woken
      | [] => L.phases.set i (.done r) := rfl

/-- A task that starts while the lock is free and nobody waits takes the lock; otherwise it
queues behind the others. Either way one more task has started. -/
theorem serial_acquire (hidx : SerialIndex texts.length d s head) :
    (Loop.serial m texts d s head).acquire s =
      Loop.serial m texts d (s + 1) (if head = .idle then .holding else head) := by
  have hlen := gather_take_length (m := m) hidx.ended_le_length
  have hphases : (Loop.serial m texts d s head).phases.set s
      (if head = .idle then .holding else .queued) =
      (Loop.serial m texts d (s + 1) (if head = .idle then .holding else head)).phases := by
    simp only [Loop.serial]
    rw [map_range_set]
    exact List.map_congr_left fun i _ => serialPhase_acquire hlen hidx
  unfold Loop.acquire
  cases head with
  | idle =>
    -- the lock is free and nobody waits: the task takes the lock
    have hsd : s = d := hidx.idle_iff.1 rfl
    subst hsd
    rw [if_pos (by simp [Loop.serial, Head.firstWaiter])]
    refine Loop.ext rfl (by simpa using hphases) rfl ?_
    simp [Loop.serial, Head.firstWaiter]
  | holding =>
    have hds : d < s := hidx.ended_lt (by decide)
    rw [if_neg (by simp [Loop.serial])]
    refine Loop.ext rfl (by simpa using hphases) rfl ?_
    exact range'_append_last hds
  | woken =>
    have hds : d < s := hidx.ended_lt (by decide)
    rw [if_neg (by simp [Loop.serial, Head.firstWaiter]; omega)]
    refine Loop.ext rfl (by simpa using hphases) rfl ?_
    exact range'_append_last hidx.ended_le

/-- While the first task not ended holds the lock, the tasks after it up to the last started
wait. -/
theorem serial_waiters_next (hnext : d + 1 < s) :
    (Loop.serial m texts d s .holding).waiters = (d + 1) :: List.range' (d + 2) (s - (d + 2)) := by
  simp only [Loop.serial, Head.firstWaiter]
  rw [show s - (d + 1) = s - (d + 2) + 1 by omega, List.range'_succ]

theorem serial_waiters_none (hnext : ¬ d + 1 < s) :
    (Loop.serial m texts d s .holding).waiters = [] := by
  simp only [Loop.serial, Head.firstWaiter]
  rw [show s - (d + 1) = 0 by omega]
  rfl

/-- The holder, the first task not ended, ends as it would after the tasks before it, and hands
the lock to the next task if it waits. -/
theorem serial_release (hidx : SerialIndex texts.length d s .holding) (hd : d < texts.length) :
    (Loop.serial m texts d s .holding).release d
        ((execute texts[d]).on (m.gather (texts.take d)).2).1
        ((execute texts[d]).on (m.gather (texts.take d)).2).2 =
      Loop.serial m texts (d + 1) s (if d + 1 < s then .woken else .idle) := by
  have hlen := gather_take_length (m := m) hidx.ended_le_length
  have hgather : m.gather (texts.take (d + 1)) =
      ((m.gather (texts.take d)).1 ++ [((execute texts[d]).on (m.gather (texts.take d)).2).1],
        ((execute texts[d]).on (m.gather (texts.take d)).2).2) := by
    rw [List.take_succ_eq_append_getElem hd, gather_append]
  have hphase := fun i => serialPhase_release (i := i) hlen hidx
    ((execute texts[d]).on (m.gather (texts.take d)).2).1
  refine Loop.ext (by simp [Loop.release, Loop.serial, hgather]) ?_ ?_ ?_
  · rw [release_phases]
    by_cases hnext : d + 1 < s
    · -- the next task waits: it is woken
      rw [serial_waiters_next hnext]
      simp only [Loop.serial, hgather, map_range_set]
      exact List.map_congr_left fun i _ => by simpa [hnext] using hphase i
    · -- nobody waits
      rw [serial_waiters_none hnext]
      simp only [Loop.serial, hgather, map_range_set]
      exact List.map_congr_left fun i _ => by simpa [hnext] using hphase i
  · by_cases hnext : d + 1 < s <;> simp [Loop.release, Loop.serial, hnext]
  · by_cases hnext : d + 1 < s
    · simp [Loop.release, Loop.serial, Head.firstWaiter, hnext]
    · simp only [Loop.release, Loop.serial, Head.firstWaiter, hnext, if_false]
      rw [show s - (d + 1) = 0 by omega, show s - (d + 1 + 1) = 0 by omega]
      rfl

/-- The woken task takes the lock and leaves the queue. -/
theorem serial_resume (hidx : SerialIndex texts.length d s .woken) :
    (Loop.serial m texts d s .woken).resume d = Loop.serial m texts d s .holding := by
  have hlen := gather_take_length (m := m) hidx.ended_le_length
  have hds : d < s := hidx.ended_lt (by decide)
  refine Loop.ext rfl ?_ rfl ?_
  · simp only [Loop.resume, Loop.serial, map_range_set]
    exact List.map_congr_left fun i _ => serialPhase_resume hlen
  · simp only [Loop.resume, Loop.serial, Head.firstWaiter]
    rw [show s - d = s - (d + 1) + 1 by omega, List.range'_succ, List.erase_cons_head]

/-! ### Which task a step moves -/

theorem serial_phases_head (hidx : SerialIndex texts.length d s head) (hd : d < texts.length) :
    (Loop.serial m texts d s head).phases[d]? = some head.phase := by
  have hlen := gather_take_length (m := m) hidx.ended_le_length
  have hself : serialPhase (m.gather (texts.take d)).1 s head (m.gather (texts.take d)).1.length =
      head.phase := serialPhase_self
  rw [hlen] at hself
  rw [serial_phases_getElem?, if_pos hd, hself]

theorem serial_phases_getElem?_eq_some {i : Nat} {p : Phase}
    (h : (Loop.serial m texts d s head).phases[i]? = some p) :
    i < texts.length ∧ serialPhase (m.gather (texts.take d)).1 s head i = p := by
  rw [serial_phases_getElem?] at h
  split at h
  · exact ⟨‹_›, Option.some.inj h⟩
  · cases h

/-- The tasks not started are those from the `s`-th on. -/
theorem serial_fresh_iff (hidx : SerialIndex texts.length d s head) {i : Nat} :
    (Loop.serial m texts d s head).phases[i]? = some .fresh ↔ s ≤ i ∧ i < texts.length := by
  have hlen := gather_take_length (m := m) hidx.ended_le_length
  have hidle := hidx.idle_iff
  have hds := hidx.ended_le
  rw [serial_phases_getElem?]
  generalize (m.gather (texts.take d)).1 = outs at hlen
  subst hlen
  by_cases hi : i < texts.length
  · cases head <;>
      simp only [hi, if_true, Option.some.injEq, serialPhase, Head.phase] at hidle ⊢ <;>
      split_ifs <;> simp_all <;> omega
  · simp [hi]

/-- Only the first task not ended can stand at the head, holding the lock or handed it. -/
theorem serial_at_head (hidx : SerialIndex texts.length d s head) {i : Nat} {head' : Head}
    (hne : head' ≠ .idle) (h : (Loop.serial m texts d s head).phases[i]? = some head'.phase) :
    head = head' ∧ i = d := by
  have hlen := gather_take_length (m := m) hidx.ended_le_length
  obtain ⟨-, hp⟩ := serial_phases_getElem?_eq_some h
  generalize (m.gather (texts.take d)).1 = outs at hlen hp
  subst hlen
  cases head <;> cases head' <;> simp only [serialPhase, Head.phase] at hp hne
  all_goals split_ifs at hp <;> simp_all

theorem serial_holding (hidx : SerialIndex texts.length d s head) {i : Nat}
    (h : (Loop.serial m texts d s head).phases[i]? = some .holding) : head = .holding ∧ i = d :=
  serial_at_head hidx (by decide : Head.holding ≠ .idle) h

theorem serial_woken (hidx : SerialIndex texts.length d s head) {i : Nat}
    (h : (Loop.serial m texts d s head).phases[i]? = some .woken) : head = .woken ∧ i = d :=
  serial_at_head hidx (by decide : Head.woken ≠ .idle) h

end Serial

/-! ## Every order of steps -/

namespace Loop.Serial

variable {m : Machine} {texts : List String} {L L' : Loop}

theorem initial : (Loop.initial m texts.length).Serial m texts := by
  have hidx : SerialIndex texts.length 0 0 .idle :=
    ⟨Nat.le_refl 0, Nat.zero_le _, Iff.intro (fun _ => rfl) fun _ => rfl⟩
  refine ⟨0, 0, .idle, hidx, ?_⟩
  refine Loop.ext rfl ?_ rfl rfl
  have hfresh : ∀ i, serialPhase [] 0 .idle i = .fresh := fun i => by
    unfold serialPhase
    split_ifs <;> first | rfl | simp_all
  simp only [Loop.initial, Loop.serial, List.take_zero]
  rw [show (m.gather []).1 = [] from rfl, List.map_congr_left fun i _ => hfresh i, List.map_const',
    List.length_range]

/-- One step keeps a loop serial: the step lemma of the invariant. -/
theorem step (hL : L.Serial m texts) (h : Loop.Step texts L L') : L'.Serial m texts := by
  obtain ⟨d, s, head, hidx, rfl⟩ := hL
  cases h with
  | start hi hbefore =>
    -- the task that starts is the first one not started
    obtain ⟨hsi, hin⟩ := (serial_fresh_iff hidx).1 hi
    have his : _ = s := Nat.le_antisymm (Nat.not_lt.1 fun hlt =>
      hbefore s hlt ((serial_fresh_iff hidx).2 ⟨Nat.le_refl s, Nat.lt_of_lt_of_le hlt
        (Nat.le_of_lt hin)⟩)) hsi
    subst his
    refine ⟨d, _ + 1, _, ⟨by have := hidx.ended_le; omega, hin, ?_⟩, serial_acquire hidx⟩
    have := hidx.ended_le
    cases head <;> simp <;> omega
  | @finish i _ hi htext =>
    obtain ⟨rfl, hid⟩ := serial_holding hidx hi
    subst i
    obtain ⟨hd, rfl⟩ := List.getElem?_eq_some_iff.1 htext
    have hds : d < s := hidx.ended_lt (by decide)
    refine ⟨d + 1, s, _, ⟨hds, hidx.started_le, ?_⟩, serial_release hidx hd⟩
    by_cases hnext : d + 1 < s <;> simp [hnext] <;> omega
  | @resume i hi =>
    obtain ⟨rfl, hid⟩ := serial_woken hidx hi
    subst i
    exact ⟨d, s, .holding, ⟨hidx.ended_le, hidx.started_le, by
      simpa using hidx.idle_iff⟩, serial_resume hidx⟩

/-- Every loop that some order of steps reaches from the start is serial: the run lemma. -/
theorem of_reaches
    (h : Relation.ReflTransGen (Loop.Step texts) (Loop.initial m texts.length) L) :
    L.Serial m texts := by
  induction h with
  | refl => exact initial
  | tail _ hstep ih => exact ih.step hstep

/-- In a serial loop the tasks before the `d`-th have ended, and the `d`-th, if any, has not. -/
theorem serial_finished_iff {d s : Nat} {head : Head} (hidx : SerialIndex texts.length d s head) :
    (Loop.serial m texts d s head).Finished ↔ d = texts.length := by
  have hlen := gather_take_length (m := m) hidx.ended_le_length
  constructor
  · intro hfin
    refine Nat.le_antisymm (Nat.le_trans hidx.ended_le hidx.started_le) (Nat.not_lt.1 fun hd => ?_)
    -- the `d`-th task stands at the head, which has not ended
    have hmem : head.phase ∈ (Loop.serial m texts d s head).phases :=
      List.mem_of_getElem? (serial_phases_head hidx hd)
    have hended := hfin _ hmem
    cases head <;> cases hended
  · intro hd p hp
    obtain ⟨i, hi, rfl⟩ : ∃ i, i < texts.length ∧
        serialPhase (m.gather (texts.take d)).1 s head i = p := by
      simpa [Loop.serial] using hp
    rw [serialPhase_of_lt (by omega)]
    rfl

/-- A loop whose tasks have all ended holds the outcomes and the machine of the executions one
after another. -/
theorem finished (hL : L.Serial m texts) (hfin : L.Finished) :
    L.outcomes = (m.gather texts).1 ∧ L.machine = (m.gather texts).2 := by
  obtain ⟨d, s, head, hidx, rfl⟩ := hL
  have hd := (serial_finished_iff hidx).1 hfin
  subst hd
  have htake : texts.take texts.length = texts := List.take_length
  have hlen := gather_length m texts
  refine ⟨?_, by simp [Loop.serial, htake]⟩
  -- every task ended with the outcome of its execution one after another
  have hphases :
      (Loop.serial m texts texts.length s head).phases = (m.gather texts).1.map .done := by
    apply List.ext_getElem (by simp [Loop.serial, hlen])
    intro i h₁ h₂
    simp only [Loop.serial, htake, List.getElem_map, List.getElem_range]
    exact serialPhase_of_lt (by simpa [hlen] using h₂)
  simp only [Loop.outcomes, hphases, List.filterMap_map]
  exact List.filterMap_some

/-- A loop with a task not ended can always take a step: the first task not ended starts, ends
its execution, or runs again. -/
theorem progress (hL : L.Serial m texts) (hnot : ¬ L.Finished) : ∃ L', Loop.Step texts L L' := by
  obtain ⟨d, s, head, hidx, rfl⟩ := hL
  have hlen := gather_take_length (m := m) hidx.ended_le_length
  have hd : d < texts.length := Nat.lt_of_le_of_ne (Nat.le_trans hidx.ended_le hidx.started_le)
    fun h => hnot ((serial_finished_iff hidx).2 h)
  have hhead := serial_phases_head (m := m) hidx hd
  cases head with
  | idle =>
    have hsd : s = d := hidx.idle_iff.1 rfl
    refine ⟨_, .start hhead fun j hj => ?_⟩
    rw [serial_phases_getElem?, if_pos (by omega), serialPhase_of_lt (by omega)]
    simp
  | holding => exact ⟨_, .finish hhead (List.getElem?_eq_getElem hd)⟩
  | woken => exact ⟨_, .resume hhead⟩

end Loop.Serial

/-! ## Every order of steps ends -/

/-- How far a task still has to go: start, queue, be woken, hold the lock, end. -/
def Phase.weight : Phase → Nat
  | .fresh => 4
  | .queued => 3
  | .woken => 2
  | .holding => 1
  | .done _ => 0

/-- The work a loop has left: more than the number of steps it can still take. -/
def Loop.pending (L : Loop) : Nat := (L.phases.map Phase.weight).sum

theorem Loop.initial_pending (m : Machine) (n : Nat) : (Loop.initial m n).pending = 4 * n := by
  simp [Loop.initial, Loop.pending, Phase.weight, Nat.mul_comm]

/-- Moving one task further along lowers the work left. -/
theorem pending_set_lt {l : List Phase} {i : Nat} {p q : Phase} (h : l[i]? = some p)
    (hw : q.weight < p.weight) : ((l.set i q).map Phase.weight).sum < (l.map Phase.weight).sum := by
  induction l generalizing i with
  | nil => cases h
  | cons a l ih =>
    cases i with
    | zero =>
      obtain rfl : a = p := Option.some.inj h
      simp only [List.set_cons_zero, List.map_cons, List.sum_cons]
      omega
    | succ i =>
      have := ih (by simpa using h)
      simp only [List.set_cons_succ, List.map_cons, List.sum_cons]
      omega

/-- Every step of a serial loop lowers the work left, so no order of steps runs for ever. -/
theorem Loop.Serial.pending_lt {m : Machine} {texts : List String} {L L' : Loop}
    (hL : L.Serial m texts) (h : Loop.Step texts L L') : L'.pending < L.pending := by
  cases h with
  | start hi _ =>
    unfold Loop.acquire
    split
    · exact pending_set_lt hi (by decide)
    · exact pending_set_lt hi (by decide)
  | resume hi => exact pending_set_lt hi (by decide)
  | @finish i text hi _ =>
    obtain ⟨d, s, head, hidx, rfl⟩ := hL
    obtain ⟨rfl, hid⟩ := serial_holding hidx hi
    subst i
    have hlen := gather_take_length (m := m) hidx.ended_le_length
    have hended := pending_set_lt hi
      (q := .done ((execute text).on (Loop.serial m texts d s .holding).machine).1) Nat.zero_lt_one
    simp only [Loop.pending, release_phases]
    by_cases hnext : d + 1 < s
    · -- the next task was waiting: it is woken, one more step along
      have hqueued : ((Loop.serial m texts d s .holding).phases.set d
          (.done ((execute text).on (Loop.serial m texts d s .holding).machine).1))[d + 1]? =
            some .queued := by
        rw [List.getElem?_set, if_neg (by omega), serial_phases_getElem?,
          if_pos (by have := hidx.started_le; omega), serialPhase_of_gt (by omega), if_pos hnext]
      rw [serial_waiters_next hnext]
      exact Nat.lt_trans (pending_set_lt hqueued (by decide)) hended
    · rw [serial_waiters_none hnext]
      exact hended

/-- A run from a serial loop, given as the loops it passes through, takes no more steps than the
work the loop has left. -/
theorem Loop.Serial.run_length_le {m : Machine} {texts : List String} {L : Loop} {path : List Loop}
    (hL : L.Serial m texts) (hrun : List.IsChain (Loop.Step texts) (L :: path)) :
    path.length ≤ L.pending := by
  -- on the loops after the first, each serial by the step lemma
  induction path generalizing L with
  | nil => exact Nat.zero_le _
  | cons L' path ih =>
    obtain ⟨hstep, hrest⟩ := List.isChain_cons_cons.1 hrun
    have hlater : path.length ≤ L'.pending := ih (hL.step hstep) hrest
    have hlower : L'.pending < L.pending := hL.pending_lt hstep
    simp only [List.length_cons]
    omega

/-- A gather of `n` tasks takes at most `4 * n` steps, in whatever order the loop takes them. -/
theorem gather_run_length_le (m : Machine) (texts : List String) {path : List Loop}
    (hrun : List.IsChain (Loop.Step texts) (Loop.initial m texts.length :: path)) :
    path.length ≤ 4 * texts.length := by
  have h := Loop.Serial.initial.run_length_le hrun
  rwa [Loop.initial_pending] at h

/-- Whatever order the loop takes its steps in, the executions of a gather behave as run one after
another in the order given: a loop in which every task has ended holds the outcomes and the
machine of the executions one after another; a loop in which some task has not ended can always
take a step; and every step lowers the work left, so every order of steps ends. -/
theorem gather_serializes (m : Machine) (texts : List String) {L : Loop}
    (hrun : Relation.ReflTransGen (Loop.Step texts) (Loop.initial m texts.length) L) :
    (L.Finished → L.outcomes = (m.gather texts).1 ∧ L.machine = (m.gather texts).2) ∧
      (¬ L.Finished → ∃ L', Loop.Step texts L L') ∧
      ∀ L', Loop.Step texts L L' → L'.pending < L.pending := by
  have hL := Loop.Serial.of_reaches hrun
  exact ⟨hL.finished, hL.progress, fun _ h => hL.pending_lt h⟩

/-- Two executions run together, the second asking for the lock while the first holds it: the
second queues, is woken when the first ends, and runs after it. -/
theorem gather_serializes_sample :
    let texts := ["d: DC: x", "1: WL: $d"]
    let m : Machine := { context := {} }
    ∃ L, Relation.ReflTransGen (Loop.Step texts) (Loop.initial m texts.length) L ∧
      L.Finished ∧ L.outcomes = (m.gather texts).1 ∧ L.machine = (m.gather texts).2 := by
  intro texts m
  -- the first task takes the lock, the second queues, the first ends and wakes the second
  let L₁ := (Loop.initial m 2).acquire 0
  let L₂ := L₁.acquire 1
  let L₃ := L₂.release 0 ((execute "d: DC: x").on L₂.machine).1
    ((execute "d: DC: x").on L₂.machine).2
  let L₄ := L₃.resume 1
  let L₅ := L₄.release 1 ((execute "1: WL: $d").on L₄.machine).1
    ((execute "1: WL: $d").on L₄.machine).2
  have h₁ : Loop.Step texts (Loop.initial m texts.length) L₁ :=
    .start rfl fun j hj => absurd hj (Nat.not_lt_zero j)
  have h₂ : Loop.Step texts L₁ L₂ := .start rfl fun j hj h => by
    obtain rfl : j = 0 := by omega
    cases h
  have h₃ : Loop.Step texts L₂ L₃ := @Loop.Step.finish texts L₂ 0 "d: DC: x" rfl rfl
  have h₄ : Loop.Step texts L₃ L₄ := .resume rfl
  have h₅ : Loop.Step texts L₄ L₅ := @Loop.Step.finish texts L₄ 1 "1: WL: $d" rfl rfl
  have hrun : Relation.ReflTransGen (Loop.Step texts) (Loop.initial m texts.length) L₅ :=
    .tail (.tail (.tail (.tail (.single h₁) h₂) h₃) h₄) h₅
  have hfin : L₅.Finished := by decide
  exact ⟨L₅, hrun, hfin, (gather_serializes m texts hrun).1 hfin⟩

end Colonnade
