import EntityGateway.Proofs.Service.Calls

/-!
# The counters account for the calls

Successes are counted where a store has answered, failures where a call ends, and requests where
they are made, so that one call counts at up to three places. `account_answer` says what one call
adds to the counters. Accounts of calls one after the other add up, and the counters of a service
account for all calls since it was started: `metrics_of_start?`.
-/

namespace EntityGateway

open Dialogue (Run)

namespace Metrics

/-- The value of a counter. -/
def value (m : Metrics) : Counter → Nat
  | .succeeded => m.succeeded
  | .failed => m.failed
  | .tokenRequests => m.tokenRequests
  | .dataRequests => m.dataRequests

theorem value_increment (m : Metrics) (counter k : Counter) :
    (m.increment counter).value k = m.value k + if counter = k then 1 else 0 := by
  cases counter <;> cases k <;> rfl

/-- A counter goes up by as much as is counted for it. -/
theorem value_after (m : Metrics) (counted : List Counter) (k : Counter) :
    (m.after counted).value k = m.value k + counted.count k := by
  induction counted generalizing m with
  | nil => rfl
  | cons counter counted ih =>
      rw [after, List.foldl_cons]
      change ((m.increment counter).after counted).value k = _
      rw [ih, value_increment, List.count_cons, Nat.add_assoc, Nat.add_comm (counted.count k)]
      simp only [beq_iff_eq]

end Metrics

/-! ## Accounts -/

/-- The call passes all checks and goes to the remote service. -/
def Configuration.asksForToken (c : Configuration) (call : Call) : Bool :=
  match c.dataSource with
  | .documentStore _ => false
  | .remoteService _ => (c.refusal? call).isNone

/-- From `before` to `later` the counters have accounted for some calls, which ran like this. -/
structure Metrics.Account (c : Configuration) (xs : List Exchange)
    (runs : List (Run ServiceError Answer)) (before later : Metrics) : Prop where
  succeeded : later.succeeded = before.succeeded + runs.countP Run.succeeded
  failed : later.failed = before.failed + runs.countP fun run => !run.succeeded
  tokenRequests : later.tokenRequests =
    before.tokenRequests + xs.countP fun x => c.asksForToken x.call
  dataRequests : later.dataRequests = before.dataRequests + runs.countP (Run.reached · .data)

namespace Metrics

variable {c : Configuration} {xs xs' : List Exchange} {runs runs' : List (Run ServiceError Answer)}
  {m m' m'' : Metrics}

theorem Account.nil : Account c [] [] m m := ⟨rfl, rfl, rfl, rfl⟩

/-- Accounts of calls one after the other are an account of all of them. -/
theorem Account.append (first : Account c xs runs m m') (second : Account c xs' runs' m' m'') :
    Account c (xs ++ xs') (runs ++ runs') m m'' where
  succeeded := by rw [second.succeeded, first.succeeded, List.countP_append, Nat.add_assoc]
  failed := by rw [second.failed, first.failed, List.countP_append, Nat.add_assoc]
  tokenRequests := by
    rw [second.tokenRequests, first.tokenRequests, List.countP_append, Nat.add_assoc]
  dataRequests := by rw [second.dataRequests, first.dataRequests, List.countP_append, Nat.add_assoc]

section Course

variable {x : Exchange} {run : Run ServiceError Answer}

/-- A call is accounted for if its requests are counted for what they are, and after them the call
for how it ended. -/
theorem Account.single (requests : List Counter)
    (counted : run.counted = requests ++ [.settled run.succeeded])
    (noSuccess : requests.count .succeeded = 0) (noFailure : requests.count .failed = 0)
    (tokens : requests.count .tokenRequests = if c.asksForToken x.call then 1 else 0)
    (data : requests.count .dataRequests = if run.reached .data then 1 else 0) :
    Account c [x] [run] m (m.after run.counted) := by
  have counts (k : Counter) : (m.after run.counted).value k =
      m.value k + (requests.count k + [Counter.settled run.succeeded].count k) := by
    rw [value_after, counted, List.count_append]
  refine ⟨(counts .succeeded).trans ?_, (counts .failed).trans ?_,
    (counts .tokenRequests).trans ?_, (counts .dataRequests).trans ?_⟩
  · rw [noSuccess]
    cases ended : run.succeeded <;> simp [value, Counter.settled, ended]
  · rw [noFailure]
    cases ended : run.succeeded <;> simp [value, Counter.settled, ended]
  · rw [tokens]
    cases run.succeeded <;> simp [value, Counter.settled, List.countP_cons]
  · rw [data]
    cases run.succeeded <;> simp [value, Counter.settled, List.countP_cons]

/-- What is counted along the course of a call accounts for the call. -/
theorem account_course (course : Course c x.call x.responses run) (m : Metrics) :
    Account c [x] [run] m (m.after run.counted) := by
  rcases course with refused | ⟨passed, source, -⟩ | ⟨passed, source, -⟩ | ⟨passed, source, -⟩
  · have asksNot : c.asksForToken x.call = false := by
      cases source : c.dataSource <;> simp [Configuration.asksForToken, source, refused]
    exact .single [] rfl rfl rfl (by simp [asksNot]) rfl
  · have asksNot : c.asksForToken x.call = false := by simp [Configuration.asksForToken, source]
    exact .single [.dataRequests] rfl rfl rfl (by simp [asksNot]) rfl
  · have asks : c.asksForToken x.call = true := by
      simp [Configuration.asksForToken, source, passed]
    exact .single [.tokenRequests] rfl rfl rfl (by simp [asks]) rfl
  · have asks : c.asksForToken x.call = true := by
      simp [Configuration.asksForToken, source, passed]
    exact .single [.tokenRequests, .dataRequests] rfl rfl rfl (by simp [asks]) rfl

end Course

end Metrics

namespace Service

theorem answer_configuration (s : Service) (x : Exchange) :
    (s.answer x).2.configuration = s.configuration := by
  obtain ⟨_ | _, now, responses⟩ := x <;> rfl

theorem answer_metrics (s : Service) (x : Exchange) :
    (s.answer x).2.metrics = s.metrics.after (s.answer x).1.counted := by
  obtain ⟨_ | _, now, responses⟩ := x <;> rfl

/-- The counters account for each call. -/
theorem account_answer (s : Service) (x : Exchange) :
    Metrics.Account s.configuration [x] [(s.answer x).1] s.metrics (s.answer x).2.metrics := by
  rw [answer_metrics]
  exact Metrics.account_course (s.answer_course x) s.metrics

/-- The counters account for any number of calls. -/
theorem account_answerAll (s : Service) (xs : List Exchange) :
    Metrics.Account s.configuration xs (s.answerAll xs).1 s.metrics (s.answerAll xs).2.metrics := by
  -- Each call leaves a service with other counters, but with the same configuration, by which the
  -- later calls are checked.
  induction xs generalizing s with
  | nil => exact .nil
  | cons x xs ih =>
      have later := ih (s.answer x).2
      rw [answer_configuration] at later
      exact (s.account_answer x).append later

theorem length_answerAll (s : Service) (xs : List Exchange) :
    (s.answerAll xs).1.length = xs.length := by
  induction xs generalizing s with
  | nil => rfl
  | cons x xs ih => exact congrArg (· + 1) (ih (s.answer x).2)

/-- The counters of a service account for all calls since it was started. -/
theorem metrics_of_start? {c : Configuration} {taken taken' : Registry} {s : Service}
    (started : start? c taken = some (s, taken')) (xs : List Exchange) :
    let (runs, s') := s.answerAll xs
    s'.metrics.succeeded = runs.countP Run.succeeded ∧
      s'.metrics.failed = runs.countP (fun run => !run.succeeded) ∧
      s'.metrics.succeeded + s'.metrics.failed = xs.length ∧
      s'.metrics.tokenRequests = xs.countP (fun x => c.asksForToken x.call) ∧
      s'.metrics.dataRequests = runs.countP (Run.reached · .data) := by
  obtain ⟨registered, -, fresh⟩ := Option.map_eq_some_iff.mp started
  obtain ⟨rfl, -⟩ := Prod.mk.inj fresh
  have account := account_answerAll ⟨c, {}⟩ xs
  have succeeded := account.succeeded.trans (Nat.zero_add _)
  have failed := account.failed.trans (Nat.zero_add _)
  refine ⟨succeeded, failed, ?_, account.tokenRequests.trans (Nat.zero_add _),
    account.dataRequests.trans (Nat.zero_add _)⟩
  rw [succeeded, failed, ← length_answerAll ⟨c, {}⟩ xs,
    List.length_eq_countP_add_countP Run.succeeded]
  simp only [Bool.not_eq_true, Bool.decide_eq_false]

/-- A service in front of a remote store with one entity. -/
def remoteShelf : Configuration where
  dataSource := .remoteService ⟨"https://s.example", "u", "p", "https://t.example", "c"⟩
  metadata := .ofEntities [⟨"book", "book", "books", "id", [⟨"id", "bookid", .uniqueidentifier⟩]⟩]
  maxUrlLength := 2048

/-- The body of a response with a token for `remoteShelf`. -/
def tokenBody : Json :=
  .object [("access_token", .string "a"), ("resource", .string "https://s.example/")]

/-- Calls about an entity that is not described, without any response, and with a token and a page.
-/
def remoteShelfCalls (now : Instant) : List Exchange := [
  ⟨.record ⟨"author", .zero⟩, now, []⟩,
  ⟨.page { entity := "book" }, now, []⟩,
  ⟨.page { entity := "book" }, now, [
    some ⟨⟨200⟩, [], tokenBody.compact⟩,
    some ⟨⟨200⟩, [], (Json.object [("value", .array [])]).compact⟩]⟩]

theorem metrics_of_remoteShelf :
    ∃ s taken, start? remoteShelf {} = some (s, taken) ∧
      let (runs, s') := s.answerAll (remoteShelfCalls ⟨0, 0, by decide, by decide⟩)
      s'.metrics.succeeded = runs.countP Run.succeeded ∧
        s'.metrics.failed = runs.countP (fun run => !run.succeeded) ∧
        s'.metrics.succeeded + s'.metrics.failed = 3 ∧
        s'.metrics.tokenRequests = 2 ∧
        s'.metrics.dataRequests = runs.countP (Run.reached · .data) := by
  have asked : (remoteShelfCalls ⟨0, 0, by decide, by decide⟩).countP
      (fun x => remoteShelf.asksForToken x.call) = 2 := by decide +kernel
  have started : start? remoteShelf {} = some (⟨remoteShelf, {}⟩, ⟨Metrics.names⟩) := rfl
  obtain ⟨succeeded, failed, all, tokens, data⟩ :=
    metrics_of_start? started (remoteShelfCalls ⟨0, 0, by decide, by decide⟩)
  exact ⟨_, _, started, succeeded, failed, all, tokens.trans asked, data⟩

end Service

end EntityGateway
