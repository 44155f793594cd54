import Mathlib.Data.List.Forall2
import Mathlib.Data.List.Induction
import TelemetryAuth.Proofs.Credential.Renaming

/-!
# Programs over renamed tokens

A program uses a credential and looks at diagnostic texts, of the credential, of tokens and of what
it was answered (`Session`).  It records what each step reports, so two programs are compared by
their records.

Chance has a part in what is reported.  The headers of a call and the static headers of an exporter
are kept in no order of their own, so each step draws the order in which it goes through them, and
two programs may draw differently.  So there are two relations between the reports of one step:

* `Session.Entry.Alike`, where the token in a grant and in an authorization is the renamed one
  (`Access.Alike`), and nothing else differs;
* `Session.Entry.AlikeButOrder`, where what shows an order may differ as well: the header that is
  blamed where none fits, and the place of a static header in a diagnostic text.

If two programs draw orders that match (`Session.Step.OrdersMatch`), the second relation is the
first one (`Session.Entry.AlikeButOrder.alike`).
-/

namespace TelemetryAuth

variable {rename : String → String} {place : Nat} {keyring : Keyring} {provider : Provider}

/-! ### Answers -/

namespace Access

/-- The answers of one step to two programs, the second of which has renamed tokens. -/
inductive Alike (rename : String → String) : Access → Answer → Answer → Prop
  /-- What is answered without asking for the token is the same. -/
  | same {access : Access} {answer : Answer} (reading : access.reading? = none) :
      Alike rename access answer answer
  /-- A grant has the renamed token. -/
  | grant {now : Instant} (grant : Grant) :
      Alike rename (.use .token now) (.grant grant) (.grant (grant.renamed rename))
  /-- A header set is made from the renamed token. -/
  | headers {way : Use} {now : Instant} (grant : Grant) :
      Alike rename (.use way now) (.headers (.ofGrant grant))
        (.headers (.ofGrant (grant.renamed rename)))
  /-- A call is dropped with the same status. -/
  | dropped {origin : Origin} {existing : HeaderMap} {order : HeaderOrder} {now : Instant}
      (status : Grpc.Status) :
      Alike rename (.use (.intercept origin existing order) now) (.intercepted (.error status))
        (.intercepted (.error status))
  /-- A call goes on with the renamed token in its authorization. -/
  | attached {origin : Origin} {existing a b : HeaderMap} {order : HeaderOrder} {now : Instant}
      {token : String} (alike : a.AlikeButToken token (rename token) b) :
      Alike rename (.use (.intercept origin existing order) now) (.intercepted (.ok a))
        (.intercepted (.ok b))
  /-- No request is sent, for the same reason. -/
  | unsent {origin : Origin} {client : Http.Client} {request : Http.Request} {order : HeaderOrder}
      {now : Instant} (reason : String) :
      Alike rename (.use (.send origin client request order) now) (.exchanged ⟨.error reason, []⟩)
        (.exchanged ⟨.error reason, []⟩)
  /-- A request is sent with the renamed token in its authorization, and the answer is that of the
  wrapped client to this request. -/
  | sent {origin : Origin} {client : Http.Client} {request : Http.Request} {order : HeaderOrder}
      {now : Instant} {a b : HeaderMap} {token : String}
      (alike : a.AlikeButToken token (rename token) b) :
      Alike rename (.use (.send origin client request order) now)
        (.exchanged ⟨client { request with headers := a }, [{ request with headers := a }]⟩)
        (.exchanged ⟨client { request with headers := b }, [{ request with headers := b }]⟩)

/-- The results of one step: the same failure, or answers that are alike. -/
inductive ResultsAlike (rename : String → String) (access : Access) :
    Except CallFailure Answer → Except CallFailure Answer → Prop
  | failed (failure : CallFailure) : ResultsAlike rename access (.error failure) (.error failure)
  | answered {a b : Answer} (alike : Alike rename access a b) :
      ResultsAlike rename access (.ok a) (.ok b)

/-- Whether a step can be compared under a renaming.  A hook looks at what may stand in a header,
which the renaming must keep. -/
def Comparable (rename : String → String) : Access → Prop
  | .use (.intercept _ _ _) _ | .use (.send _ _ _ _) _ => KeepsValues rename
  | _ => True

end Access

/-! ### Orders -/

/-- A use that goes through header sets in an order. -/
def Use.reordered (order : HeaderOrder) : Use → Use
  | .token => .token
  | .headers => .headers
  | .ask origin => .ask origin
  | .intercept origin existing _ => .intercept origin existing order
  | .send origin client request _ => .send origin client request order

/-- A step that goes through header sets in an order. -/
def Access.reordered (order : HeaderOrder) : Access → Access
  | .use way now => .use (way.reordered order) now
  | .build process plan => .build process { plan with headerOrder := order }
  | .billedProject => .billedProject
  | .debug => .debug
  | .create => .create
  | .customize exporter identity => .customize exporter identity
  | .register env identity => .register env identity

theorem Access.reading?_reordered (order : HeaderOrder) (access : Access) :
    (access.reordered order).reading? = access.reading? := by
  cases access <;> rfl

/-- Of the steps that do not ask for the token, only a build goes through headers. -/
theorem Access.reordered_of_no_reading {access : Access} (h : access.reading? = none) :
    (∃ process plan, access = .build process plan) ∨
      ∀ order, access.reordered order = access := by
  cases access with
  | use way now => cases h
  | build process plan => exact .inl ⟨process, plan, rfl⟩
  | billedProject => exact .inr fun _ => rfl
  | debug => exact .inr fun _ => rfl
  | create => exact .inr fun _ => rfl
  | customize exporter identity => exact .inr fun _ => rfl
  | register env identity => exact .inr fun _ => rfl

/-! ### Sessions -/

/-- The diagnostic text of an answer, if it is a value that has one of its own. -/
def Access.Answer.debugText? (order : HeaderOrder) : Answer → Option String
  | .grant granted => some granted.debugText
  | .source _ => some HeaderSource.debugText
  | .exporter (.transport handle) => some (handle.debugText order)
  | .exporter (.named _ _) | .headers _ | .intercepted _ | .exchanged _ | .text _ | .extension _
  | .built _ => none

/-- What a program looks at the diagnostic text of. -/
inductive Subject
  /-- The token that the back end brings at a fetch. -/
  | fetched (n : Nat)
  /-- The token that the credential holds. -/
  | held
  /-- What an earlier step answered: a grant, a header source or an exporter. -/
  | answered (n : Nat)
  /-- A header source, however it comes about. -/
  | source
  /-- An interceptor for a header source. -/
  | interceptor
  /-- A client with a header source around one that is shown as `inner`. -/
  | client (inner : String)

/-- A step of a program that uses a credential and looks at diagnostic texts. -/
inductive Session.Step
  | access (access : Access)
  | look (subject : Subject)

/-- What a step reports: a result and what was logged, or a diagnostic text. -/
inductive Session.Report
  | answered (result : Except CallFailure Access.Answer) (log : List Log.Entry)
  | shown (text : Option String)

/-- A step that was taken, the order that it drew, and its report. -/
structure Session.Entry where
  step : Step
  order : HeaderOrder
  report : Report

/-- The state of a program: the credentials and the steps it has taken. -/
structure Session where
  keyring : Keyring
  record : List Session.Entry

namespace Session

/-- The diagnostic text of what a step has answered. -/
def Entry.answeredText? (order : HeaderOrder) (entry : Entry) : Option String :=
  match entry.report with
  | .answered (.ok answer) _ => answer.debugText? order
  | .answered (.error _) _ | .shown _ => none

/-- The diagnostic text of a subject. -/
def text? (place : Nat) (order : HeaderOrder) (session : Session) : Subject → Option String
  | .fetched n =>
    session.keyring[place]?.bind fun provider =>
      (provider.backend n).token?.map BearerToken.debugText
  | .held =>
    session.keyring[place]?.bind fun provider =>
      provider.credential.held.map BearerToken.debugText
  | .answered n => session.record[n]?.bind (Entry.answeredText? order)
  | .source => some HeaderSource.debugText
  | .interceptor => some Grpc.debugText
  | .client inner => some (Http.debugText inner)

/-- A program after one more step with the credential at a place.  The step draws the order for its
place in the record; an order that the step names itself does not count. -/
def take (place : Nat) (draw : Nat → HeaderOrder) (session : Session) : Step → Session
  | .access access =>
    let order := draw session.record.length
    let reply := (access.reordered order).perform place session.keyring
    ⟨reply.after, session.record ++ [⟨.access access, order, .answered reply.result reply.log⟩]⟩
  | .look subject =>
    let order := draw session.record.length
    ⟨session.keyring,
      session.record ++ [⟨.look subject, order, .shown (session.text? place order subject)⟩]⟩

/-- A program that takes some steps. -/
def run (place : Nat) (draw : Nat → HeaderOrder) (keyring : Keyring) (steps : List Step) :
    Session :=
  steps.foldl (take place draw) ⟨keyring, []⟩

/-- Whether a step can be compared under a renaming. -/
def Step.Comparable (rename : String → String) : Step → Prop
  | .access taken => taken.Comparable rename
  | .look _ => True

variable {draw draw' : Nat → HeaderOrder} {steps : List Step} {mine theirs : Session}

theorem run_concat (place : Nat) (draw : Nat → HeaderOrder) (keyring : Keyring)
    (steps : List Step) (last : Step) :
    run place draw keyring (steps ++ [last]) =
      (run place draw keyring steps).take place draw last := by
  rw [run, List.foldl_append]
  rfl

/-- One step is recorded, with the order that it drew. -/
theorem record_take (place : Nat) (draw : Nat → HeaderOrder) (session : Session) (step : Step) :
    ∃ report, (session.take place draw step).record =
      session.record ++ [⟨step, draw session.record.length, report⟩] := by
  cases step with
  | access access => exact ⟨_, rfl⟩
  | look subject => exact ⟨_, rfl⟩

/-- Every step is recorded. -/
theorem step_record_run (place : Nat) (draw : Nat → HeaderOrder) (keyring : Keyring)
    (steps : List Step) : (run place draw keyring steps).record.map (·.step) = steps := by
  induction steps using List.reverseRecOn with
  | nil => rfl
  | append_singleton steps last ih =>
    obtain ⟨report, htake⟩ := record_take place draw (run place draw keyring steps) last
    rw [run_concat, htake, List.map_append, ih]
    rfl

/-- The orders are drawn one after the other. -/
theorem order_record_run (place : Nat) (draw : Nat → HeaderOrder) (keyring : Keyring)
    (steps : List Step) :
    (run place draw keyring steps).record.map (·.order) = (List.range steps.length).map draw := by
  induction steps using List.reverseRecOn with
  | nil => rfl
  | append_singleton steps last ih =>
    obtain ⟨report, htake⟩ := record_take place draw (run place draw keyring steps) last
    have hlength := congrArg List.length (step_record_run place draw keyring steps)
    rw [List.length_map] at hlength
    rw [run_concat, htake, List.map_append, ih, hlength, List.length_append, List.length_singleton,
      List.range_succ, List.map_append]
    rfl

/-! ### Reports that are alike -/

/-- The reports of one step: results that are alike and the same log, or the same text. -/
inductive Entry.Alike (rename : String → String) : Entry → Entry → Prop
  | answered {access : Access} {order other : HeaderOrder}
      {mine theirs : Except CallFailure Access.Answer} (log : List Log.Entry)
      (alike : access.ResultsAlike rename mine theirs) :
      Alike rename ⟨.access access, order, .answered mine log⟩
        ⟨.access access, other, .answered theirs log⟩
  | shown {order other : HeaderOrder} (subject : Subject) (text : Option String) :
      Alike rename ⟨.look subject, order, .shown text⟩ ⟨.look subject, other, .shown text⟩

/-- The same text, or that of one exporter with its static headers in two orders. -/
inductive TextsAlike (order other : HeaderOrder) : Option String → Option String → Prop
  | same (text : Option String) : TextsAlike order other text text
  | exporter (handle : TransportExporter) :
      TextsAlike order other (some (handle.debugText order)) (some (handle.debugText other))

/-- The reports of one step to two programs that have drawn an order each: they are alike up to what
shows the order. -/
inductive Entry.AlikeButOrder (rename : String → String) : Entry → Entry → Prop
  /-- The results are alike, and the logs are the same. -/
  | answered {access : Access} {order other : HeaderOrder}
      {mine theirs : Except CallFailure Access.Answer} (log : List Log.Entry)
      (alike : access.ResultsAlike rename mine theirs) :
      AlikeButOrder rename ⟨.access access, order, .answered mine log⟩
        ⟨.access access, other, .answered theirs log⟩
  /-- A call is dropped because no value of its set can stand in a header.  Each status names the
  header that comes first. -/
  | refused {origin : Origin} {existing : HeaderMap} {asked order other : HeaderOrder}
      {now : Instant} {grant : Grant} {status status' : Grpc.Status} (log : List Log.Entry)
      (first : Grpc.NamesFirst order (.ofGrant grant) status)
      (first' : Grpc.NamesFirst other (.ofGrant (grant.renamed rename)) status') :
      AlikeButOrder rename
        ⟨.access (.use (.intercept origin existing asked) now), order,
          .answered (.ok (.intercepted (.error status))) log⟩
        ⟨.access (.use (.intercept origin existing asked) now), other,
          .answered (.ok (.intercepted (.error status'))) log⟩
  /-- A pipeline is built, which is not given the credential. -/
  | built {order other : HeaderOrder} (process : Environment) (plan : Pipeline.Plan) :
      AlikeButOrder rename
        ⟨.access (.build process plan), order,
          .answered (.ok (.built (Pipeline.build process { plan with headerOrder := order })))
            (Pipeline.build process { plan with headerOrder := order }).log⟩
        ⟨.access (.build process plan), other,
          .answered (.ok (.built (Pipeline.build process { plan with headerOrder := other })))
            (Pipeline.build process { plan with headerOrder := other }).log⟩
  /-- The texts are the same up to the order of static headers. -/
  | shown {subject : Subject} {order other : HeaderOrder} {mine theirs : Option String}
      (texts : TextsAlike order other mine theirs) :
      AlikeButOrder rename ⟨.look subject, order, .shown mine⟩ ⟨.look subject, other, .shown theirs⟩

/-- The orders that two programs draw for one step match: a use goes through the header set of a
token and of the renamed token alike, and any other step draws the same order. -/
def Step.OrdersMatch (rename : String → String) (order other : HeaderOrder) : Step → Prop
  | .access (.use _ _) => order.Matches rename other
  | .access _ | .look _ => other = order

/-- The orders that two programs draw match in every step. -/
def DrawsMatch (rename : String → String) (steps : List Step) (draw draw' : Nat → HeaderOrder) :
    Prop :=
  ∀ n (step : Step), steps[n]? = some step → step.OrdersMatch rename (draw n) (draw' n)

/-- **If the orders match, they leave no mark.** -/
theorem Entry.AlikeButOrder.alike {mine theirs : Entry} (h : mine.AlikeButOrder rename theirs)
    (hmatch : mine.step.OrdersMatch rename mine.order theirs.order) : mine.Alike rename theirs := by
  cases h with
  | answered log alike => exact .answered log alike
  | refused log first first' =>
    obtain rfl := first.status_eq first' (hmatch _)
    exact .answered log (.answered (.dropped _))
  | built process plan =>
    obtain rfl := hmatch
    exact .answered _ (.answered (.same rfl))
  | @shown _ order other _ _ texts =>
    obtain rfl : other = order := hmatch
    cases texts with
    | same => exact .shown _ _
    | exporter handle => exact .shown _ _

end Session

end TelemetryAuth
