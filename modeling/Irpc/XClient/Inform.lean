import Irpc.XClient.FanOut

/-! `Inform` and its promise to return the results of all servers. -/
namespace Irpc.XClient

open Irpc.Foundation

variable {Reply : Type}

/-- A worker signals before it appends its error and its receipt. The loop waits for
all signals. -/
def inform : Plan where
  worker := [.call, .signal, .append, .setReply, .receipt]
  verdict left _ := if left = 0 then .leave else .wait

/-- What a caller reads in a receipt. -/
structure Report (Reply : Type) where
  address : Bytes
  reply : Option Reply
  error : Option GoError

def Receipt.read (errors : MultiError) (receipt : Receipt Reply) : Report Reply :=
  ⟨receipt.address, receipt.reply, some (.plain errors.error)⟩

/-- What a caller is to read: the server's address, its own reply, its own error. -/
def FanOutRun.report (run : FanOutRun Reply) (target : Target Reply) : Report Reply :=
  ⟨addressOf target.key, if run.hasReply then some target.reply else none, target.err⟩

def FanOutRun.obtained (run : FanOutRun Reply) : List (Target Reply) :=
  if run.isShutdown then [] else run.clients

namespace FanOut

variable {run : FanOutRun Reply} {state next : FanOut Reply} {event : FanOutEvent}

/-- The receipts hold one entry for each client, with its own results. -/
def AllResults (run : FanOutRun Reply) (state : FanOut Reply) : Prop :=
  (state.results.map (·.read state.errors)).Perm (run.obtained.map run.report)

def receiptAt (run : FanOutRun Reply) (worker : Nat) : Option (Receipt Reply) :=
  (run.clients[worker]?).map (receiptOf run.hasReply)

/-- What the lists of an `Inform` know of its workers. -/
structure Informing (run : FanOutRun Reply) (state : FanOut Reply) : Prop where
  /-- Workers that are done have left a receipt, in some order. -/
  reported : ∃ order : List Nat, order.Nodup ∧
    (∀ worker, worker ∈ order ↔ worker < run.clients.length ∧ 4 < state.positions worker) ∧
    state.receipts = order.filterMap (receiptAt run)
  appended : ∀ worker target err, run.clients[worker]? = some target → target.err = some err →
    2 < state.positions worker → err ∈ state.errors.errors
  results : state.results <+: state.receipts
  early : run.obtained = [] → (∃ err, state.phase = .returned err) ∧ state.results = []

theorem receipts_perform (hasReply : Bool) (state : FanOut Reply) (worker : Nat) (target : Target Reply)
    (action : WorkerStep) : (state.perform hasReply worker target action).receipts =
      if action = .receipt then state.receipts ++ [receiptOf hasReply target] else state.receipts := by
  rw [perform_eq]

theorem results_perform (hasReply : Bool) (state : FanOut Reply) (worker : Nat) (target : Target Reply)
    (action : WorkerStep) : (state.perform hasReply worker target action).results = state.results := by
  rw [perform_eq]

theorem receipt_inform (index : Nat) : inform.worker[index]? = some .receipt ↔ index = 4 :=
  inform.worker_eq_iff (by decide) rfl index

theorem append_inform (index : Nat) : inform.worker[index]? = some .append ↔ index = 2 :=
  inform.worker_eq_iff (by decide) rfl index

theorem Informing.start (run : FanOutRun Reply) : Informing run (.start run) := by
  refine ⟨⟨[], List.nodup_nil, ?_, rfl⟩, ?_, List.prefix_rfl, ?_⟩
  · intro worker
    simp [FanOut.start]
  · intro worker target err _ _ past
    exact absurd past (Nat.not_lt_zero _)
  · intro none_obtained
    refine ⟨?_, rfl⟩
    unfold FanOut.start FanOutRun.obtained at *
    dsimp only
    split at none_obtained
    case isTrue shutdown => exact ⟨_, if_pos shutdown⟩
    case isFalse running => exact ⟨_, by rw [if_neg running, if_pos none_obtained]⟩

/-- A worker that comes to its receipt has left none before. -/
theorem Informing.reported_work (informing : Informing run state) (started : run.clients[worker]? = some target)
    (current : inform.worker[state.positions worker]? = some action) :
    ∃ order : List Nat, order.Nodup ∧
      (∀ other, other ∈ order ↔ other < run.clients.length ∧
        4 < ((state.perform run.hasReply worker target action).advance worker).positions other) ∧
      (state.perform run.hasReply worker target action).receipts = order.filterMap (receiptAt run) := by
  have bound : worker < run.clients.length := (List.getElem?_eq_some_iff.mp started).1
  have atReceipt : action = .receipt ↔ state.positions worker = 4 := by
    rw [← receipt_inform, current, Option.some.injEq]
  obtain ⟨positions, -, -, -⟩ := perform_frame run.hasReply state worker target action
  have receipts := receipts_perform run.hasReply state worker target action
  obtain ⟨order, distinct, members, listed⟩ := informing.reported
  simp only [past_advance_iff, positions, receipts]
  by_cases receipt : action = .receipt
  · have silent : worker ∉ order := by
      rw [members, atReceipt.mp receipt]
      exact fun reported => lt_irrefl _ reported.2
    refine ⟨order ++ [worker], ?_, ?_, ?_⟩
    · exact distinct.append (List.nodup_singleton worker) (by simpa using silent)
    · intro other
      rw [List.mem_append, List.mem_singleton, members]
      constructor
      · rintro (reported | rfl)
        · exact ⟨reported.1, .inl reported.2⟩
        · exact ⟨bound, .inr ⟨rfl, atReceipt.mp receipt⟩⟩
      · rintro ⟨inRange, past | ⟨same, -⟩⟩
        · exact .inl ⟨inRange, past⟩
        · exact .inr same
    · simp [receipt, listed, receiptAt, started]
  · refine ⟨order, distinct, ?_, ?_⟩
    · intro other
      rw [members]
      refine and_congr_right fun _ => (or_iff_left ?_).symm
      rintro ⟨rfl, here⟩
      exact receipt (atReceipt.mpr here)
    · rw [if_neg receipt, listed]

theorem Informing.appended_work (informing : Informing run state) (started : run.clients[worker]? = some target)
    (current : inform.worker[state.positions worker]? = some action)
    (found : run.clients[other]? = some server) (failed : server.err = some err)
    (past : 2 < ((state.perform run.hasReply worker target action).advance worker).positions other) :
    err ∈ (state.perform run.hasReply worker target action).errors.errors := by
  obtain ⟨positions, -, -, -⟩ := perform_frame run.hasReply state worker target action
  rw [past_advance_iff, positions] at past
  rcases past with past | ⟨rfl, here⟩
  · apply subset_errors_perform
    exact informing.appended other server err found failed past
  · have sameServer : target = server := Option.some.inj (started.symm.trans found)
    have appends : action = .append := by
      rw [← append_inform, current] at here
      exact Option.some.inj here
    subst sameServer appends
    simp [perform, failed, MultiError.append]

theorem Informing.work (informing : Informing run state) (started : run.clients[worker]? = some target)
    (current : inform.worker[state.positions worker]? = some action) :
    Informing run ((state.perform run.hasReply worker target action).advance worker) := by
  obtain ⟨-, -, -, phase⟩ := perform_frame run.hasReply state worker target action
  have receipts := receipts_perform run.hasReply state worker target action
  have results := results_perform run.hasReply state worker target action
  refine ⟨informing.reported_work started current, ?_, ?_, ?_⟩
  · intro other server err found failed past
    exact informing.appended_work started current found failed past
  · change (state.perform _ _ _ _).results <+: (state.perform _ _ _ _).receipts
    rw [results, receipts]
    split
    · exact informing.results.trans (List.prefix_append _ _)
    · exact informing.results
  · intro none_obtained
    change (∃ err, (state.perform _ _ _ _).phase = .returned err) ∧ (state.perform _ _ _ _).results = []
    rw [phase, results]
    exact informing.early none_obtained

theorem Informing.step (informing : Informing run state) (moves : Moves inform run state event next) :
    Informing run next := by
  have running : ∀ {phase}, state.phase = phase → (∀ err, phase ≠ .returned err) → run.obtained ≠ [] := by
    intro phase same unreturned none_obtained
    obtain ⟨err, returned⟩ := (informing.early none_obtained).1
    exact unreturned err (same.symm.trans returned)
  cases moves with
  | work started current => exact informing.work started current
  | receive collecting waiting started =>
    exact ⟨informing.reported, informing.appended, informing.results,
      fun none_obtained => absurd none_obtained (running collecting nofun)⟩
  | timeout collecting =>
    refine ⟨informing.reported, ?_, informing.results,
      fun none_obtained => absurd none_obtained (running collecting nofun)⟩
    intro worker target err started failed past
    exact List.mem_append_left _ (informing.appended worker target err started failed past)
  | finish leaving =>
    exact ⟨informing.reported, informing.appended, List.prefix_rfl,
      fun none_obtained => absurd none_obtained (running leaving nofun)⟩

theorem informing_of_reachable (reachable : (system inform run).Reachable state) : Informing run state := by
  refine System.Reached.invariant reachable ?_ ?_
  · intro state initial
    rw [show state = FanOut.start run from initial]
    exact .start run
  · intro state event next informing _ moved
    exact informing.step (moves_of_step moved)

theorem filterMap_receiptAt (run : FanOutRun Reply) :
    (List.range run.clients.length).filterMap (receiptAt run) = run.clients.map (receiptOf run.hasReply) := by
  unfold receiptAt
  induction run.clients using List.reverseRecOn with
  | nil => rfl
  | append_singleton targets target ih =>
    have earlier : (List.range targets.length).filterMap (fun worker =>
        ((targets ++ [target])[worker]?).map (receiptOf run.hasReply)) =
        (List.range targets.length).filterMap fun worker =>
          (targets[worker]?).map (receiptOf run.hasReply) := by
      apply List.filterMap_congr
      intro worker member
      rw [List.getElem?_append_left (List.mem_range.mp member)]
    rw [List.length_append, List.length_singleton, List.range_succ, List.filterMap_append, earlier, ih,
      List.map_append]
    simp

/-- Receipts that are handed back name a client with its own reply, each at most once. -/
theorem Informing.results_subperm (informing : Informing run state) :
    state.results.Subperm (run.clients.map (receiptOf run.hasReply)) := by
  obtain ⟨order, distinct, members, listed⟩ := informing.reported
  have inRange := subperm_range_of_lt distinct fun worker member => ((members worker).mp member).1
  obtain ⟨sorted, perm, sublist⟩ := inRange
  have receipts : state.receipts.Subperm (run.clients.map (receiptOf run.hasReply)) := by
    rw [listed, ← filterMap_receiptAt]
    exact ⟨sorted.filterMap (receiptAt run), perm.filterMap _, sublist.filterMap _⟩
  exact informing.results.sublist.subperm.trans receipts

theorem Informing.done_of_full (informing : Informing run state)
    (full : state.results.length = run.clients.length) (bound : worker < run.clients.length) :
    4 < state.positions worker := by
  obtain ⟨order, distinct, members, listed⟩ := informing.reported
  have inRange := subperm_range_of_lt distinct fun worker member => ((members worker).mp member).1
  have many : run.clients.length ≤ order.length := by
    calc run.clients.length = state.results.length := full.symm
      _ ≤ state.receipts.length := informing.results.length_le
      _ ≤ order.length := by
        rw [listed]
        exact List.length_filterMap_le _ _
  exact ((members worker).mp (mem_of_subperm_range inRange many bound)).2

/-- The error in a receipt is no server's own. -/
theorem Informing.not_allResults (informing : Informing run state) (obtained : run.obtained ≠ []) :
    ¬ AllResults run state := by
  intro all
  have clients : run.obtained = run.clients := by
    unfold FanOutRun.obtained at obtained ⊢
    split at obtained
    · exact absurd rfl obtained
    · simp [*]
  rw [clients] at obtained
  rw [AllResults, clients] at all
  have full : state.results.length = run.clients.length := by simpa using all.length_eq
  obtain ⟨target, member⟩ := List.exists_mem_of_ne_nil _ obtained
  have listed : run.report target ∈ state.results.map (·.read state.errors) :=
    all.mem_iff.mpr (List.mem_map_of_mem member)
  obtain ⟨receipt, -, same⟩ := List.mem_map.mp listed
  have shared : target.err = some (.plain state.errors.error) := (congrArg Report.error same).symm
  obtain ⟨worker, bound, started⟩ := List.getElem_of_mem member
  have appended := informing.appended worker target _ (List.getElem?_eq_some_iff.mpr ⟨bound, started⟩) shared
    ((by decide : 2 < 4).trans (informing.done_of_full full bound))
  exact lt_irrefl _ (state.errors.length_error_lt appended)

end FanOut

/-- Whatever the interleaving, `Inform` hands back receipts of clients with their
own address and reply, none twice. They are complete and carry the servers' own
errors just when it obtained no client at all. -/
theorem inform_results_iff {run : FanOutRun Reply} {state : FanOut Reply}
    (reachable : (FanOut.system inform run).Reachable state) :
    state.results.Subperm (run.clients.map (FanOut.receiptOf run.hasReply)) ∧
      (state.AllResults run ↔ run.obtained = []) := by
  have informing := FanOut.informing_of_reachable reachable
  refine ⟨informing.results_subperm, ?_⟩
  constructor
  · intro all
    by_contra obtained
    exact informing.not_allResults obtained all
  · intro none_obtained
    rw [FanOut.AllResults, (informing.early none_obtained).2, none_obtained]
    exact List.Perm.refl _

theorem inform_results_iff_pair :
    ∃ state, (FanOut.system inform (pairRun (sampleTarget none) (otherTarget none))).Reachable state ∧
      state.phase = .returned none ∧ state.results.length = 2 ∧
      ¬ state.AllResults (pairRun (sampleTarget none) (otherTarget none)) := by
  let run := pairRun (sampleTarget none) (otherTarget none)
  have start : (FanOut.system inform run).Reachable (.start run) := .start rfl
  have played : (FanOut.system inform run).play (.start run)
      [.work 0, .work 0, .work 0, .work 0, .work 0, .work 1, .work 1, .work 1, .work 1, .work 1,
        .receive, .receive, .finish] = some _ := rfl
  have reachable := start.play played
  refine ⟨_, reachable, rfl, rfl, ?_⟩
  rw [(inform_results_iff reachable).2]
  exact nofun

/-- Both servers answer, the receipt of the second one comes too late, and the other one carries
an error; or one of the servers fails, both receipts come in time, and each of them carries
that failure. -/
theorem inform_loses_receipt :
    (∃ state, (FanOut.system inform (pairRun (sampleTarget none) (otherTarget none))).Reachable state ∧
      state.phase = .returned none ∧
      (state.results.map (·.read state.errors)).map Report.error = [some (.plain (utf8 "[]"))] ∧
      ¬ state.AllResults (pairRun (sampleTarget none) (otherTarget none))) ∧
    ∃ state, (FanOut.system inform (pairRun (sampleTarget (some refusal)) (otherTarget none))).Reachable state ∧
      (state.results.map (·.read state.errors)).map Report.error =
        [some (.plain (utf8 "[refused]")), some (.plain (utf8 "[refused]"))] ∧
      ¬ state.AllResults (pairRun (sampleTarget (some refusal)) (otherTarget none)) := by
  constructor
  · let run := pairRun (sampleTarget none) (otherTarget none)
    have start : (FanOut.system inform run).Reachable (.start run) := .start rfl
    have played : (FanOut.system inform run).play (.start run)
        [.work 0, .work 0, .work 0, .work 0, .work 0, .work 1, .work 1, .receive, .receive, .finish] =
          some _ := rfl
    refine ⟨_, start.play played, rfl, by decide, ?_⟩
    intro all
    exact absurd all.length_eq (by decide)
  · let run := pairRun (sampleTarget (some refusal)) (otherTarget none)
    have start : (FanOut.system inform run).Reachable (.start run) := .start rfl
    have played : (FanOut.system inform run).play (.start run)
        [.work 0, .work 0, .work 0, .work 0, .work 0, .work 1, .work 1, .work 1, .work 1, .work 1,
          .receive, .receive, .finish] = some _ := rfl
    refine ⟨_, start.play played, by decide, ?_⟩
    intro all
    have errors := all.map Report.error
    exact absurd (errors.mem_iff.mpr (by decide : none ∈ _)) (by decide)

end Irpc.XClient
