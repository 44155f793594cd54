import Mathlib.Tactic.Choose
import TelemetryAuth.Proofs.Credential.Session

/-!
# Tokens do not leak

A program runs twice, the second time over a back end whose tokens are renamed.  Every use is one
call for the token, which behaves as before (`Provider.grant_renamed`), so step by step the two runs
make the same fetches, fail in the same words and log the same entries, and their answers are alike.
No diagnostic text shows the text of a token, so all of them are the same.  Whatever orders of
headers the two runs draw, nothing else differs than what shows these orders
(`Session.alikeButOrder_run`), and whatever one of them draws, the other may draw orders that match
(`Session.Step.exists_ordersMatch`).

The main result is `tokens_do_not_leak`.
-/

namespace TelemetryAuth

variable {rename : String → String} {place : Nat} {keyring : Keyring} {provider : Provider}

/-! ### One step -/

/-- What a use logs if the call for the token has a result and a log. -/
def Use.logOf (call : Except CallFailure Grant) (log : List Log.Entry) : Use → List Log.Entry
  | .token | .headers | .ask _ => log
  | .intercept _ _ _ | .send _ _ _ _ =>
    match call with
    | .error (.failed error) => log ++ [Grpc.droppedEntry error]
    | .error (.crash _) | .ok _ => log

theorem log_perform_use (h : keyring[place]? = some provider) (way : Use) (now : Instant) :
    (way.perform place keyring now).log =
      way.logOf (provider.grant now).result (provider.grant now).log := by
  cases way with
  | token =>
    rw [Use.perform, Keyring.call_of_get? h]
    rfl
  | headers =>
    rw [Use.perform, Keyring.call_of_get? h]
    rfl
  | ask origin =>
    rw [Use.perform, headers_of_get? h]
    rfl
  | intercept origin existing order =>
    rw [Use.perform, Grpc.intercept, headers_of_get? h]
    cases (provider.grant now).result with
    | ok grant => rfl
    | error failure => cases failure <;> rfl
  | send origin client request order =>
    rw [Use.perform, Http.send, headers_of_get? h]
    cases (provider.grant now).result with
    | ok grant => rfl
    | error failure => cases failure <;> rfl

theorem Use.logOf_reordered (order : HeaderOrder) (way : Use) (call : Except CallFailure Grant)
    (log : List Log.Entry) : (way.reordered order).logOf call log = way.logOf call log := by
  cases way <;> rfl

/-- What a use logs does not depend on the order of headers. -/
theorem log_perform_reordered (h : keyring[place]? = some provider) (order : HeaderOrder)
    (way : Use) (now : Instant) :
    ((way.reordered order).perform place keyring now).log =
      way.logOf (provider.grant now).result (provider.grant now).log := by
  rw [log_perform_use h, Use.logOf_reordered]

/-- A use logs the same for renamed tokens. -/
theorem Use.logOf_renamed (way : Use) (call : Except CallFailure Grant) (log : List Log.Entry) :
    way.logOf (call.map (Grant.renamed rename)) log = way.logOf call log := by
  cases way with
  | token => rfl
  | headers => rfl
  | ask origin => rfl
  | intercept origin existing order => cases call <;> rfl
  | send origin client request order => cases call <;> rfl

/-- The answers of a use are alike if the results of the call are. -/
theorem Use.answerTo_renamed {way : Use} {now : Instant}
    (hcomparable : (Access.use way now).Comparable rename) (order other : HeaderOrder)
    (call : Except CallFailure Grant) (log : List Log.Entry) :
    Session.Entry.AlikeButOrder rename
      ⟨.access (.use way now), order, .answered ((way.reordered order).answerTo call) log⟩
      ⟨.access (.use way now), other,
        .answered ((way.reordered other).answerTo (call.map (Grant.renamed rename))) log⟩ := by
  cases call with
  | error failure =>
    refine .answered log ?_
    cases way with
    | token => exact .failed failure
    | headers => exact .failed failure
    | ask origin => exact .failed failure
    | intercept origin existing asked =>
      cases failure with
      | failed error => exact .answered (.dropped _)
      | crash message => exact .failed _
    | send origin client request asked =>
      cases failure with
      | failed error => exact .answered (.unsent _)
      | crash message => exact .failed _
  | ok grant =>
    cases way with
    | token => exact .answered log (.answered (.grant grant))
    | headers => exact .answered log (.answered (.headers grant))
    | ask origin => exact .answered log (.answered (.headers grant))
    | intercept origin existing asked =>
      show Session.Entry.AlikeButOrder rename
        ⟨_, _, .answered (.ok (.intercepted (Grpc.attachMetadata _ _ order))) log⟩
        ⟨_, _, .answered (.ok (.intercepted (Grpc.attachMetadata _ _ other))) log⟩
      rcases Grpc.attachMetadata_renamed hcomparable existing grant order other with
        ⟨a, b, hmine, htheirs, halike⟩ | ⟨status, status', hmine, htheirs, rfl | ⟨hfirst, hfirst'⟩⟩
      · rw [hmine, htheirs]
        exact .answered log (.answered (.attached halike))
      · rw [hmine, htheirs]
        exact .answered log (.answered (.dropped status))
      · rw [hmine, htheirs]
        exact .refused log hfirst hfirst'
    | send origin client request asked =>
      refine .answered log ?_
      show Access.ResultsAlike rename _ (.ok (.exchanged (Http.sendWith client request _ order)))
        (.ok (.exchanged (Http.sendWith client request _ other)))
      rcases Http.sendWith_renamed hcomparable client request grant order other with
        ⟨reason, hmine, htheirs⟩ | ⟨a, b, hmine, htheirs, halike⟩
      · rw [hmine, htheirs]
        exact .answered (.unsent reason)
      · rw [hmine, htheirs]
        exact .answered (.sent halike)

theorem Keyring.getElem?_map_renamed (rename : String → String)
    (h : keyring[place]? = some provider) :
    (keyring.map (Provider.renamed rename))[place]? = some (provider.renamed rename) := by
  rw [List.getElem?_map, h]
  rfl

/-- A step that does not ask for the token does not depend on it. -/
theorem Access.perform_renamed_of_no_reading (rename : String → String)
    (h : keyring[place]? = some provider) {access : Access} (hreading : access.reading? = none) :
    (access.perform place (keyring.map (Provider.renamed rename))).result =
        (access.perform place keyring).result ∧
      (access.perform place (keyring.map (Provider.renamed rename))).log =
        (access.perform place keyring).log := by
  have h' := Keyring.getElem?_map_renamed rename h
  cases access with
  | use way now => cases hreading
  | billedProject =>
    rw [perform, Keyring.call_of_get? h', perform, Keyring.call_of_get? h]
    exact ⟨rfl, rfl⟩
  | debug =>
    rw [perform, Keyring.call_of_get? h', perform, Keyring.call_of_get? h]
    exact ⟨rfl, rfl⟩
  | create => exact ⟨rfl, rfl⟩
  | customize exporter identity => exact ⟨rfl, rfl⟩
  | register env identity =>
    rw [perform, Keyring.call_of_get? h', perform, Keyring.call_of_get? h]
    exact ⟨rfl, rfl⟩
  | build process plan => exact ⟨rfl, rfl⟩

/-- **One step.**  Over renamed tokens it leaves the renamed credential, and its report is alike up
to what shows the orders that were drawn. -/
theorem Access.perform_renamed (hrename : Function.Injective rename)
    (h : keyring[place]? = some provider) {access : Access}
    (hcomparable : access.Comparable rename) (order other : HeaderOrder) :
    let mine := (access.reordered order).perform place keyring
    let theirs := (access.reordered other).perform place (keyring.map (Provider.renamed rename))
    theirs.after = mine.after.map (Provider.renamed rename) ∧
      Session.Entry.AlikeButOrder rename
        ⟨.access access, order, .answered mine.result mine.log⟩
        ⟨.access access, other, .answered theirs.result theirs.log⟩ := by
  intro mine theirs
  have h' := Keyring.getElem?_map_renamed rename h
  cases hreading : access.reading? with
  | none =>
    have hafter : mine.after = keyring :=
      perform_of_no_reading h ((reading?_reordered order access).trans hreading)
    have hafter' : theirs.after = keyring.map (Provider.renamed rename) :=
      perform_of_no_reading h' ((reading?_reordered other access).trans hreading)
    refine ⟨by rw [hafter', hafter], ?_⟩
    rcases reordered_of_no_reading hreading with ⟨process, plan, rfl⟩ | hfixed
    · exact .built process plan
    · -- The step goes through no headers, so it is the same for both orders.
      obtain ⟨hresult, hlog⟩ := perform_renamed_of_no_reading rename h hreading
      have hmine : mine = access.perform place keyring := by rw [← hfixed order]
      have htheirs : theirs = access.perform place (keyring.map (Provider.renamed rename)) := by
        rw [← hfixed other]
      rw [hmine, htheirs, hresult, hlog]
      refine .answered _ ?_
      cases (access.perform place keyring).result with
      | error failure => exact .failed failure
      | ok answer => exact .answered (.same hreading)
  | some now =>
    obtain ⟨way, rfl⟩ := exists_use_of_reading hreading
    obtain ⟨hafter, hresult⟩ := perform_use h (way.reordered order) now
    obtain ⟨hafter', hresult'⟩ := perform_use h' (way.reordered other) now
    have hlog := log_perform_reordered h order way now
    have hlog' := log_perform_reordered h' other way now
    -- Only the result of the call differs, by the renaming.
    rw [Provider.grant_renamed hrename] at hafter' hresult' hlog'
    rw [Use.logOf_renamed] at hlog'
    constructor
    · show ((way.reordered other).perform _ _ _).after =
        ((way.reordered order).perform _ _ _).after.map _
      rw [hafter', hafter, List.map_set]
    · show Session.Entry.AlikeButOrder rename
        ⟨_, _, .answered ((way.reordered order).perform _ _ _).result
          ((way.reordered order).perform _ _ _).log⟩
        ⟨_, _, .answered ((way.reordered other).perform _ _ _).result
          ((way.reordered other).perform _ _ _).log⟩
      rw [hresult, hresult', hlog, hlog']
      exact Use.answerTo_renamed hcomparable order other _ _

/-- A step does not remove the credential. -/
theorem Access.exists_provider_after (h : keyring[place]? = some provider) (access : Access) :
    ∃ after, (access.perform place keyring).after[place]? = some after := by
  cases hreading : access.reading? with
  | none => exact ⟨provider, by rw [perform_of_no_reading h hreading, h]⟩
  | some now =>
    obtain ⟨way, rfl⟩ := exists_use_of_reading hreading
    have hplace : place < keyring.length := (List.getElem?_eq_some_iff.1 h).1
    exact ⟨_, by rw [perform, (perform_use h way now).1, List.getElem?_set_self hplace]⟩

/-! ### Diagnostic texts -/

theorem BearerToken.debugText_comp_renamed (rename : String → String) :
    debugText ∘ renamed rename = debugText := rfl

theorem FetchOutcome.token?_renamed (outcome : FetchOutcome) :
    (outcome.renamed rename).token? = outcome.token?.map (BearerToken.renamed rename) := by
  cases outcome with
  | token brought => rfl
  | failure reason => rfl
  | crash message => rfl

/-- No diagnostic text of an answer shows the text of a token. -/
theorem Access.Alike.textsAlike {access : Access} {a b : Access.Answer}
    (h : access.Alike rename a b) (order other : HeaderOrder) :
    Session.TextsAlike order other (a.debugText? order) (b.debugText? other) := by
  cases h with
  | same reading =>
    cases a with
    | exporter handle =>
      cases handle with
      | transport handle => exact .exporter handle
      | named name identity => exact .same none
    | grant granted => exact .same (some granted.debugText)
    | headers set => exact .same none
    | intercepted ending => exact .same none
    | exchanged exchange => exact .same none
    | text shown => exact .same none
    | source made => exact .same (some HeaderSource.debugText)
    | extension made => exact .same none
    | built run => exact .same none
  | grant grant => exact .same (some grant.debugText)
  | headers grant => exact .same none
  | dropped status => exact .same none
  | attached alike => exact .same none
  | unsent reason => exact .same none
  | sent alike => exact .same none

namespace Session

variable {draw draw' : Nat → HeaderOrder} {steps : List Step} {mine theirs : Session}

theorem Entry.AlikeButOrder.textsAlike {mine theirs : Entry} (h : mine.AlikeButOrder rename theirs)
    (order other : HeaderOrder) :
    TextsAlike order other (mine.answeredText? order) (theirs.answeredText? other) := by
  cases h with
  | answered log alike =>
    cases alike with
    | failed failure => exact .same none
    | answered alike => exact alike.textsAlike order other
  | refused log first first' => exact .same none
  | built process plan => exact .same none
  | shown texts => exact .same none

/-- What two programs were answered at one place of their records is shown alike. -/
theorem textsAlike_of_forall₂ {mine theirs : List Entry}
    (h : List.Forall₂ (Entry.AlikeButOrder rename) mine theirs) (order other : HeaderOrder)
    (n : Nat) :
    TextsAlike order other (mine[n]?.bind (Entry.answeredText? order))
      (theirs[n]?.bind (Entry.answeredText? other)) := by
  induction h generalizing n with
  | nil => exact .same none
  | cons head tail ih =>
    cases n with
    | zero => exact head.textsAlike order other
    | succ n => exact ih n

/-! ### Whole runs -/

/-- Two programs have taken the same steps, the second one over renamed tokens. -/
structure AlikeButOrder (rename : String → String) (place : Nat) (mine theirs : Session) :
    Prop where
  present : ∃ provider, mine.keyring[place]? = some provider
  keyring : theirs.keyring = mine.keyring.map (Provider.renamed rename)
  record : List.Forall₂ (Entry.AlikeButOrder rename) mine.record theirs.record

/-- Both programs see the same diagnostic texts, up to the order of static headers. -/
theorem AlikeButOrder.textsAlike (h : mine.AlikeButOrder rename place theirs)
    (order other : HeaderOrder) (subject : Subject) :
    TextsAlike order other (mine.text? place order subject) (theirs.text? place other subject) := by
  obtain ⟨provider, hmine⟩ := h.present
  have htheirs : theirs.keyring[place]? = some (provider.renamed rename) := by
    rw [h.keyring]
    exact Keyring.getElem?_map_renamed rename hmine
  cases subject with
  | fetched n =>
    have htext : theirs.text? place other (.fetched n) = mine.text? place order (.fetched n) := by
      unfold text?
      rw [hmine, htheirs]
      show ((provider.backend n).renamed rename).token?.map BearerToken.debugText =
        (provider.backend n).token?.map BearerToken.debugText
      rw [FetchOutcome.token?_renamed, Option.map_map, BearerToken.debugText_comp_renamed]
    rw [htext]
    exact .same _
  | held =>
    have htext : theirs.text? place other .held = mine.text? place order .held := by
      unfold text?
      rw [hmine, htheirs]
      show (provider.credential.held.map (BearerToken.renamed rename)).map BearerToken.debugText =
        provider.credential.held.map BearerToken.debugText
      rw [Option.map_map, BearerToken.debugText_comp_renamed]
    rw [htext]
    exact .same _
  | answered n => exact textsAlike_of_forall₂ h.record order other n
  | source => exact .same _
  | interceptor => exact .same _
  | client inner => exact .same _

/-- **One more step.** -/
theorem AlikeButOrder.take (hrename : Function.Injective rename)
    (h : mine.AlikeButOrder rename place theirs) {step : Step}
    (hcomparable : step.Comparable rename) :
    (mine.take place draw step).AlikeButOrder rename place (theirs.take place draw' step) := by
  obtain ⟨provider, hprovider⟩ := h.present
  cases step with
  | access access =>
    obtain ⟨hafter, halike⟩ := access.perform_renamed hrename hprovider hcomparable
      (draw mine.record.length) (draw' theirs.record.length)
    rw [← h.keyring] at hafter halike
    exact ⟨Access.exists_provider_after hprovider _, hafter,
      List.rel_append h.record (.cons halike .nil)⟩
  | look subject =>
    have htexts := h.textsAlike (draw mine.record.length) (draw' theirs.record.length) subject
    exact ⟨h.present, h.keyring, List.rel_append h.record (.cons (.shown htexts) .nil)⟩

/-- **A whole run**, whatever the two programs draw. -/
theorem alikeButOrder_run (hrename : Function.Injective rename)
    (h : keyring[place]? = some provider) (hcomparable : ∀ step ∈ steps, step.Comparable rename)
    (draw draw' : Nat → HeaderOrder) :
    (run place draw keyring steps).AlikeButOrder rename place
      (run place draw' (keyring.map (Provider.renamed rename)) steps) := by
  induction steps using List.reverseRecOn with
  | nil => exact ⟨⟨provider, h⟩, rfl, .nil⟩
  | append_singleton steps last ih =>
    have hsteps : ∀ step ∈ steps, step.Comparable rename := by
      intro step hmem
      exact hcomparable step (List.mem_append_left _ hmem)
    rw [run_concat, run_concat]
    exact (ih hsteps).take hrename (hcomparable last (by simp))

/-! ### Orders that match -/

/-- What stands in the record of a run. -/
theorem of_getElem?_record {n : Nat} {entry : Entry}
    (h : (run place draw keyring steps).record[n]? = some entry) :
    steps[n]? = some entry.step ∧ entry.order = draw n := by
  have hstep : steps[n]? = some entry.step := by
    rw [← step_record_run place draw keyring steps, List.getElem?_map, h]
    rfl
  refine ⟨hstep, ?_⟩
  have horder := congrArg (·[n]?) (order_record_run place draw keyring steps)
  have hlength : n < steps.length := (List.getElem?_eq_some_iff.1 hstep).1
  simp only [List.getElem?_map, h, List.getElem?_range hlength, Option.map_some,
    Option.some.injEq] at horder
  exact horder

/-- If the orders match in every step, both programs report alike. -/
theorem forall₂_alike_run (hrename : Function.Injective rename)
    (h : keyring[place]? = some provider) (hcomparable : ∀ step ∈ steps, step.Comparable rename)
    (hmatch : DrawsMatch rename steps draw draw') :
    List.Forall₂ (Entry.Alike rename) (run place draw keyring steps).record
      (run place draw' (keyring.map (Provider.renamed rename)) steps).record := by
  have hrun := (alikeButOrder_run hrename h hcomparable draw draw').record
  rw [List.forall₂_iff_get] at hrun ⊢
  refine ⟨hrun.1, fun n hn hn' => (hrun.2 n hn hn').alike ?_⟩
  obtain ⟨hstep, horder⟩ := of_getElem?_record (List.getElem?_eq_getElem hn)
  obtain ⟨-, horder'⟩ := of_getElem?_record (List.getElem?_eq_getElem hn')
  rw [List.get_eq_getElem, List.get_eq_getElem, horder, horder']
  exact hmatch n _ hstep

/-- Whatever order one program draws for a step, the other may draw one that matches. -/
theorem Step.exists_ordersMatch (hrename : Function.Injective rename) (step : Step)
    (drawn : HeaderOrder) :
    (∃ other, step.OrdersMatch rename drawn other) ∧
      ∃ order, step.OrdersMatch rename order drawn := by
  cases step with
  | look subject => exact ⟨⟨drawn, rfl⟩, ⟨drawn, rfl⟩⟩
  | access access =>
    cases access with
    | use way now =>
      obtain ⟨other, hother⟩ :=
        HeaderOrder.exists_names_eq (Grant.renamed_injective hrename) id drawn
      obtain ⟨order, horder⟩ :=
        HeaderOrder.exists_names_eq Function.injective_id (Grant.renamed rename) drawn
      exact ⟨⟨other, fun grant => (hother grant).symm⟩, ⟨order, horder⟩⟩
    | billedProject => exact ⟨⟨drawn, rfl⟩, ⟨drawn, rfl⟩⟩
    | debug => exact ⟨⟨drawn, rfl⟩, ⟨drawn, rfl⟩⟩
    | create => exact ⟨⟨drawn, rfl⟩, ⟨drawn, rfl⟩⟩
    | customize exporter identity => exact ⟨⟨drawn, rfl⟩, ⟨drawn, rfl⟩⟩
    | register env identity => exact ⟨⟨drawn, rfl⟩, ⟨drawn, rfl⟩⟩
    | build process plan => exact ⟨⟨drawn, rfl⟩, ⟨drawn, rfl⟩⟩

/-- An order can be chosen for each step of a list. -/
theorem exists_draw {holds : Nat → Step → HeaderOrder → Prop}
    (h : ∀ n step, ∃ order, holds n step order) (steps : List Step) :
    ∃ draw : Nat → HeaderOrder, ∀ n step, steps[n]? = some step → holds n step (draw n) := by
  have hstep : ∀ n, ∃ order, ∀ step, steps[n]? = some step → holds n step order := by
    intro n
    cases hget : steps[n]? with
    | none => exact ⟨.byName, fun step hnone => nomatch hnone⟩
    | some step =>
      obtain ⟨order, horder⟩ := h n step
      refine ⟨order, fun taken htaken => ?_⟩
      obtain rfl := Option.some.inj htaken
      exact horder
  choose draw hdraw using hstep
  exact ⟨draw, hdraw⟩

end Session

/-- **Tokens do not leak.**  Take a program that uses a credential in any ways and looks at any
diagnostic texts, and let it take the same steps, at the same readings of the clock, over a back end
whose tokens are renamed injectively and whose outcomes are the same otherwise.  Each step of either
run draws the order in which it goes through headers.

- There is such a credential if and only if there is the other; it bills the same project, and its
  creation is recorded by the same entry.
- Whatever the two runs draw, each takes all steps, the same number of fetches is made, and the
  second run ends with the renamed credential.  Each of its steps fails with the same failure as in
  the first run or answers alike, and it logs the same entries; and each diagnostic text is the
  same.  This is up to what shows the order that was drawn: if no value of a set can stand in a
  header, the interceptor names the header that comes first, and static headers are shown in their
  order.
- If the orders match, nothing shows them: answers and texts are alike without a reservation.
  Whatever one of the runs draws, there are orders for the other that match.

Steps that go through a hook are compared if the renaming keeps what may stand in a header. -/
theorem tokens_do_not_leak (hrename : Function.Injective rename)
    (h : keyring[place]? = some provider) {steps : List Session.Step}
    (hcomparable : ∀ step ∈ steps, step.Comparable rename) :
    let mine := fun draw => Session.run place draw keyring steps
    let theirs := fun draw => Session.run place draw (keyring.map (Provider.renamed rename)) steps
    (∀ reported backend,
      Provider.create reported (backend.renamed rename) =
        (Provider.create reported backend).map (Provider.renamed rename)) ∧
    (provider.renamed rename).credential.createdEntry = provider.credential.createdEntry ∧
    (∀ draw draw',
      (mine draw).record.map (·.step) = steps ∧ (theirs draw').record.map (·.step) = steps ∧
      (theirs draw').keyring = (mine draw).keyring.map (Provider.renamed rename) ∧
      (theirs draw').keyring.map (·.fetches) = (mine draw).keyring.map (·.fetches) ∧
      List.Forall₂ (Session.Entry.AlikeButOrder rename) (mine draw).record (theirs draw').record) ∧
    (∀ draw draw', Session.DrawsMatch rename steps draw draw' →
      List.Forall₂ (Session.Entry.Alike rename) (mine draw).record (theirs draw').record) ∧
    (∀ draw, ∃ draw', Session.DrawsMatch rename steps draw draw') ∧
    ∀ draw', ∃ draw, Session.DrawsMatch rename steps draw draw' := by
  intro mine theirs
  refine ⟨Provider.create_renamed rename, rfl, fun draw draw' => ?_, fun draw draw' hmatch => ?_,
    fun draw => ?_, fun draw' => ?_⟩
  · have hrun : (mine draw).AlikeButOrder rename place (theirs draw') :=
      Session.alikeButOrder_run hrename h hcomparable draw draw'
    refine ⟨Session.step_record_run place draw _ steps, Session.step_record_run place draw' _ steps,
      hrun.keyring, ?_, hrun.record⟩
    rw [hrun.keyring, List.map_map]
    rfl
  · exact Session.forall₂_alike_run hrename h hcomparable hmatch
  · exact Session.exists_draw (fun n step => (step.exists_ordersMatch hrename (draw n)).1) steps
  · exact Session.exists_draw (fun n step => (step.exists_ordersMatch hrename (draw' n)).2) steps

/-! ### A program that looks at everything

It uses the credential in three ways, and looks at a grant, an exporter, the token that is held and
an interceptor. -/

/-- A renaming that writes something in front of each token. -/
def prefixed (token : String) : String := "new-" ++ token

theorem prefixed_injective : Function.Injective prefixed := fun _ _ heq =>
  (String.append_right_inj _).1 heq

theorem keepsValues_prefixed : KeepsValues prefixed := Header.isValue_append (by decide +kernel)

/-- The steps of the program. -/
def lookingSteps : List Session.Step := [
  .access (.use .token insideMargin),
  .look (.answered 0),
  .access (.customize (.transport staleExporter) 2),
  .look (.answered 2),
  .access (.use (.intercept (.attached staleExporter 2) .empty .byName) insideMargin),
  .look .held,
  .access (.use (.send .created acceptingClient repeatedRequest .byName) insideMargin),
  .look .interceptor]

/-- The first run goes through headers by name, the second one from behind. -/
theorem tokens_do_not_leak_prefixed :
    Function.Injective prefixed ∧ [cachingProvider][0]? = some cachingProvider ∧
    (∀ step ∈ lookingSteps, step.Comparable prefixed) ∧
    let mine := Session.run 0 (fun _ => .byName) [cachingProvider] lookingSteps
    let theirs := Session.run 0 (fun _ => .reversed) [cachingProvider.renamed prefixed] lookingSteps
    mine.keyring.map (·.fetches) = [3] ∧ theirs.keyring.map (·.fetches) = [3] ∧
    (∃ log,
      mine.record[0]? = some ⟨.access (.use .token insideMargin), .byName,
        .answered (.ok (.grant ⟨"project", "cached"⟩)) log⟩ ∧
      theirs.record[0]? = some ⟨.access (.use .token insideMargin), .reversed,
        .answered (.ok (.grant ⟨"project", "new-cached"⟩)) log⟩) ∧
    (mine.record[1]? = some ⟨.look (.answered 0), .byName, .shown (some
        "TokenSnapshot \x7b quota_project_id: \"project\", token: \"<redacted>\" \x7d")⟩ ∧
      theirs.record[1]? = some ⟨.look (.answered 0), .reversed, .shown (some
        "TokenSnapshot \x7b quota_project_id: \"project\", token: \"<redacted>\" \x7d")⟩) ∧
    List.Forall₂ (Session.Entry.AlikeButOrder prefixed) mine.record theirs.record ∧
    ∃ draw, List.Forall₂ (Session.Entry.Alike prefixed) mine.record
      (Session.run 0 draw [cachingProvider.renamed prefixed] lookingSteps).record := by
  have hcomparable : ∀ step ∈ lookingSteps, step.Comparable prefixed := by
    refine List.forall_mem_cons.2 ⟨trivial, List.forall_mem_cons.2 ⟨trivial, ?_⟩⟩
    refine List.forall_mem_cons.2 ⟨trivial, List.forall_mem_cons.2 ⟨trivial, ?_⟩⟩
    refine List.forall_mem_cons.2 ⟨keepsValues_prefixed, List.forall_mem_cons.2 ⟨trivial, ?_⟩⟩
    exact List.forall_mem_cons.2 ⟨keepsValues_prefixed, List.forall_mem_singleton.2 trivial⟩
  have hprovider : [cachingProvider][0]? = some cachingProvider := rfl
  refine ⟨prefixed_injective, hprovider, hcomparable, ?_⟩
  intro mine theirs
  obtain ⟨-, -, hruns, halike, hmatch, -⟩ :=
    tokens_do_not_leak prefixed_injective hprovider hcomparable
  obtain ⟨-, -, -, hfetches, hrecord⟩ := hruns (fun _ => .byName) fun _ => .reversed
  obtain ⟨draw, hdraw⟩ := hmatch fun _ => .byName
  have hmine : mine.keyring.map (·.fetches) = [3] := by decide +kernel
  have hgrant : (⟨"project", "cached"⟩ : Grant).debugText =
      "TokenSnapshot \x7b quota_project_id: \"project\", token: \"<redacted>\" \x7d" := by
    decide +kernel
  refine ⟨hmine, hfetches.trans hmine, ⟨_, rfl, rfl⟩, ⟨?_, ?_⟩, hrecord, draw, halike _ _ hdraw⟩
  · rw [← hgrant]
    rfl
  · rw [← hgrant]
    rfl

end TelemetryAuth
