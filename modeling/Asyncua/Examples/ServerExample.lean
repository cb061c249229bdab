import Asyncua.Tools.Variant

/-!
# The example server: its method and its updater thread

`examples/sync/server-example.py` exposes the method `mymethod`, `func`, which tells whether its
`Int64` argument is even, and starts a `VarUpdater` thread that writes `sin(time.time() / 10)` to
the variable `MySin` every 0.1 s while its flag `_stopev` is unset. `stop()` sets the flag. After
the interactive shell the main thread calls `vup.stop()` and leaves `with server:`, which stops
the server, without joining the thread.

The two threads interleave at the steps of `run` (test the flag, write, sleep) and of the main
thread (`vup.stop()`, leaving `with server:`). Over every interleaving, at most one write follows
`stop()`, the one the thread was about to make when the flag was set, and three steps of the
thread after `stop()` reach the end of `run`. Since the main thread does not wait for them, that
last write can come after the server has stopped.

The value written and the clock are not modelled: a write is an event of the run.
-/

namespace Asyncua

/-- `func(parent, variant)` on the `Int64` argument of `mymethod`: whether it is even, as a
`Boolean` variant. For a divisor 2, Python's `%` and `Int.emod` agree on negative numbers too. -/
def func (x : Int) : List Variant := [⟨.scalar (.bool (x % 2 == 0)), some .boolean⟩]

namespace ServerExample

/-- Where `VarUpdater.run` is. -/
inductive RunPc
  /-- At `while not self._stopev`. -/
  | loop
  /-- About to call `self.var.write_value(v)`. -/
  | write
  /-- At `time.sleep(0.1)`. -/
  | sleep
  /-- Returned from `run`. -/
  | done
  deriving DecidableEq, Repr

/-- Where the main thread is, once `vup.start()` has returned. -/
inductive MainPc
  /-- Before `vup.stop()`. -/
  | running
  /-- After `vup.stop()`, still inside `with server:`. -/
  | stopped
  /-- After leaving `with server:`. -/
  | exited
  deriving DecidableEq, Repr

/-- What a run shows outside: the writes of the thread, and the two steps of the main thread. -/
inductive Event
  | write
  | stop
  | serverStop
  deriving DecidableEq, Repr

/-- The flag `_stopev`, where each thread is, and the events so far. -/
structure State where
  stopev : Bool
  pc : RunPc
  mainPc : MainPc
  log : List Event
  deriving DecidableEq, Repr

/-- The thread that moves. -/
inductive Thread
  | updater
  | main
  deriving DecidableEq, Repr

/-- Both threads started: `VarUpdater.__init__` left the flag unset. -/
def init : State := ⟨false, .loop, .running, []⟩

/-- One step of `VarUpdater.run`. -/
def updaterStep (s : State) : State :=
  match s.pc with
  | .loop => { s with pc := if s.stopev then .done else .write }
  | .write => { s with pc := .sleep, log := s.log ++ [.write] }
  | .sleep => { s with pc := .loop }
  | .done => s

/-- One step of the main thread: `vup.stop()`, then leaving `with server:`. -/
def mainStep (s : State) : State :=
  match s.mainPc with
  | .running => { s with stopev := true, mainPc := .stopped, log := s.log ++ [.stop] }
  | .stopped => { s with mainPc := .exited, log := s.log ++ [.serverStop] }
  | .exited => s

/-- One step of the thread `t`. -/
def step (s : State) : Thread → State
  | .updater => updaterStep s
  | .main => mainStep s

/-- The state after the threads have moved in the order `sched`. -/
def exec (s : State) (sched : List Thread) : State := sched.foldl step s

/-! ### Writes after `stop()` -/

/-- The number of writes after the first `stop()` of a log. -/
def writesAfterStop : List Event → Nat
  | [] => 0
  | .stop :: l => l.count .write
  | _ :: l => writesAfterStop l

lemma writesAfterStop_of_not_mem {log : List Event} (h : Event.stop ∉ log) :
    writesAfterStop log = 0 := by
  induction log with
  | nil => rfl
  | cons x log ih =>
    simp only [List.mem_cons, not_or] at h
    cases x <;> first | exact absurd rfl h.1 | exact ih h.2

lemma writesAfterStop_append_of_not_mem {log : List Event} (h : Event.stop ∉ log) (e : Event) :
    writesAfterStop (log ++ [e]) = 0 := by
  induction log with
  | nil => cases e <;> rfl
  | cons x log ih =>
    simp only [List.mem_cons, not_or] at h
    cases x <;> first | exact absurd rfl h.1 | exact ih h.2

lemma writesAfterStop_append_of_mem {log : List Event} (h : Event.stop ∈ log) (e : Event) :
    writesAfterStop (log ++ [e]) = writesAfterStop log + if e = .write then 1 else 0 := by
  induction log with
  | nil => cases h
  | cons x log ih =>
    cases x
    case stop => cases e <;> simp [writesAfterStop]
    all_goals exact ih (List.mem_of_ne_of_mem (by decide) h)

/-- `1` when the thread is about to write. -/
def pending (s : State) : Nat := if s.pc = .write then 1 else 0

/-- What holds between the two threads: the flag is set exactly when `stop()` is in the log,
which is exactly when the main thread has moved; once it is set, the writes logged after it and
the write about to be made are at most one. -/
structure Inv (s : State) : Prop where
  stopev_iff : s.stopev = true ↔ Event.stop ∈ s.log
  running_iff : s.mainPc = .running ↔ s.stopev = false
  after_stop : s.stopev = true → writesAfterStop s.log + pending s ≤ 1

lemma inv_init : Inv init := ⟨by simp [init], by simp [init], nofun⟩

lemma inv_updaterStep {s : State} (hs : Inv s) : Inv (updaterStep s) := by
  obtain ⟨hiff, hrun, hafter⟩ := hs
  unfold updaterStep
  split
  · refine ⟨hiff, hrun, fun h => ?_⟩
    have := hafter h
    simp_all [pending]
  · refine ⟨by simp [hiff], hrun, fun h => ?_⟩
    have := hafter h
    rw [writesAfterStop_append_of_mem (hiff.mp h)]
    simp_all [pending]
  · refine ⟨hiff, hrun, fun h => ?_⟩
    have := hafter h
    simp_all [pending]
  · exact ⟨hiff, hrun, hafter⟩

lemma inv_mainStep {s : State} (hs : Inv s) : Inv (mainStep s) := by
  obtain ⟨hiff, hrun, hafter⟩ := hs
  unfold mainStep
  split
  · rename_i hm
    have hstop : Event.stop ∉ s.log := fun h => by simp_all
    refine ⟨by simp, by simp, fun _ => ?_⟩
    simp only [writesAfterStop_append_of_not_mem hstop, pending]
    split <;> omega
  · rename_i hm
    have hset : s.stopev = true := by simpa [hm] using hrun
    refine ⟨by simp [hiff], by simp [hset], fun _ => ?_⟩
    simpa [writesAfterStop_append_of_mem (hiff.mp hset), pending] using hafter hset
  · exact ⟨hiff, hrun, hafter⟩

lemma inv_exec {s : State} (hs : Inv s) (sched : List Thread) : Inv (exec s sched) := by
  induction sched generalizing s with
  | nil => exact hs
  | cons t sched ih =>
    cases t
    · exact ih (inv_updaterStep hs)
    · exact ih (inv_mainStep hs)


/-- Once the flag is set, three steps of the thread end `run`, wherever it was. -/
lemma pc_updaterStep_three {s : State} (h : s.stopev = true) :
    (updaterStep^[3] s).pc = .done := by
  obtain ⟨stopev, pc, mainPc, log⟩ := s
  cases pc <;> simp_all [updaterStep]

/-- Over every interleaving of the updater thread and the main thread, at most one write follows
`vup.stop()`, and once the flag is set three steps of the thread end `run`. -/
theorem exec_stop (sched : List Thread) :
    writesAfterStop (exec init sched).log ≤ 1 ∧
      ((exec init sched).stopev = true → (updaterStep^[3] (exec init sched)).pc = .done) := by
  have hinv := inv_exec inv_init sched
  refine ⟨?_, pc_updaterStep_three⟩
  by_cases h : (exec init sched).stopev = true
  · have := hinv.after_stop h
    omega
  · rw [writesAfterStop_of_not_mem fun hm => h (hinv.stopev_iff.mpr hm)]
    exact Nat.zero_le _

/-- The main thread does not join the updater: the thread, about to write when `stop()` is
called, writes after the server has stopped. -/
example : (exec init [.updater, .main, .main, .updater]).log = [.stop, .serverStop, .write] :=
  rfl

end ServerExample

end Asyncua
