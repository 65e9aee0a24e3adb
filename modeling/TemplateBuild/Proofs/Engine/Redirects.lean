import TemplateBuild.Proofs.Engine.Requests

/-!
# What becomes of a redirect

To ask for a URL is an attempt, and a second one where the reply to the first leads to another
place.  What is found is what the last attempt was answered; each way not to be answered has its
own error, and the error names the URL that is to blame.
-/

set_option autoImplicit false

namespace TemplateBuild

namespace Reply

theorem redirects_iff {reply : Reply} :
    reply.redirects = true ↔ reply.status ∈ [301, 302, 303, 307, 308] := by
  rw [redirects, List.contains_iff_mem]

theorem redirects_eq_false_iff {reply : Reply} :
    reply.redirects = false ↔ reply.status ∉ [301, 302, 303, 307, 308] := by
  rw [← redirects_iff, Bool.not_eq_true]

theorem succeeded_iff {reply : Reply} :
    reply.succeeded = true ↔ 200 ≤ reply.status ∧ reply.status < 300 := by
  rw [succeeded, Bool.and_eq_true, decide_eq_true_iff, decide_eq_true_iff]

end Reply

namespace Fetch

open Effect

/-! ## One attempt -/

/-- An attempt to ask for a target: what passes over the network, and either a reply with the URL
that was asked or why there is none. -/
structure Attempt where
  target : String
  sent : List (Request × Exchange)
  outcome : Except RequestFault (Url × Reply)

/-- The attempt is what comes of asking for its target over a network.  Nothing is sent for a
target that no request can be made for. -/
inductive Attempt.Over (network : Network) : Attempt → Prop
  | refused {target : String} {fault : RequestFault} : requestUrl target = .error fault →
      Over network ⟨target, [], .error fault⟩
  | unreachable {target : String} {url : Url} {causes : List String} :
      requestUrl target = .ok url →
      network.answer network.past ⟨url, agent⟩ = .unreachable causes →
      Over network ⟨target, [(⟨url, agent⟩, .unreachable causes)], .error (.unsent url.text causes)⟩
  | replied {target : String} {url : Url} {reply : Reply} : requestUrl target = .ok url →
      network.answer network.past ⟨url, agent⟩ = .replied reply →
      Over network ⟨target, [(⟨url, agent⟩, .replied reply)], .ok (url, reply)⟩

theorem Attempt.Over.length_le {network : Network} {attempt : Attempt}
    (made : attempt.Over network) : attempt.sent.length ≤ 1 := by
  cases made <;> simp

/-- The world after something has been sent. -/
def later (world : World) (sent : List (Request × Exchange)) : World :=
  { world with network := world.network.after sent }

theorem later_later (world : World) (sent more : List (Request × Exchange)) :
    later (later world sent) more = later world (sent ++ more) := by
  simp only [later, Network.after_after]

theorem run_send (text : String) (world : World) : ∃ attempt : Attempt,
    attempt.Over world.network ∧ attempt.target = text ∧
      run (send text) world =
        (attempt.outcome.mapError (.request text), later world attempt.sent) := by
  rw [send]
  split
  · next fault asked =>
    refine ⟨_, .refused asked, rfl, ?_⟩
    rw [later, Network.after_nil]
    rfl
  · next url asked =>
    cases answered : world.network.answer world.network.past ⟨url, agent⟩ with
    | unreachable causes =>
        refine ⟨_, .unreachable asked answered, rfl, ?_⟩
        rw [run_bind, run_exchange]
        simp only [Network.exchange, answered]
        rfl
    | replied reply =>
        refine ⟨_, .replied asked answered, rfl, ?_⟩
        rw [run_bind, run_exchange]
        simp only [Network.exchange, answered]
        rfl

/-! ## A second one -/

/-- The reply names a place, by a location that can be read and that joins with the URL. -/
def Leads (text : String) (reply : Reply) (place : Url) : Prop :=
  ∃ value location base, reply.header? "location" = some value ∧
    Reply.visibleText? value = some location ∧ Url.parse text = .ok base ∧
    base.join location = .ok place

theorem redirectTarget_eq_ok_iff {text : String} {reply : Reply} {place : Url} :
    redirectTarget text reply = .ok place ↔ Leads text reply place := by
  rw [redirectTarget, Leads]
  cases reply.header? "location" with
  | none => simp
  | some value =>
      cases readable : Reply.visibleText? value with
      | none => simp [readable]
      | some location =>
          cases Url.parse text with
          | error fault => simp [readable, Except.bind, Except.mapError]
          | ok base =>
              cases joined : base.join location <;>
                simp [readable, joined, Except.bind, Except.mapError]

theorem not_leads_of_redirectTarget {text : String} {reply : Reply} {fault : RedirectFault}
    (failed : redirectTarget text reply = .error fault) (place : Url) :
    ¬ Leads text reply place := by
  rw [← redirectTarget_eq_ok_iff, failed]
  simp

/-- The attempt is answered with a status whose reply has to name another place. -/
def Attempt.Moved (attempt : Attempt) (answer : Url × Reply) : Prop :=
  attempt.outcome = .ok answer ∧ answer.2.status ∈ [301, 302, 303, 307, 308]

/-- The attempt is answered by a redirect that leads to the target. -/
def Attempt.LeadsTo (text : String) (attempt : Attempt) (target : String) : Prop :=
  ∃ answer place, attempt.Moved answer ∧ Leads text answer.2 place ∧ place.text = target

/-- The attempt is answered with a status whose reply names no other place. -/
def Attempt.Stayed (attempt : Attempt) (answer : Url × Reply) : Prop :=
  attempt.outcome = .ok answer ∧ answer.2.status ∉ [301, 302, 303, 307, 308]

/-- What is made of a reply that leads nowhere else. -/
def judged (text : String) (answer : Url × Reply) : Except ProvisionError (Url × Reply) :=
  if answer.2.succeeded then .ok answer else .error (.status text answer.2.status)

theorem judged_eq_ok_iff {text : String} {answer value : Url × Reply} :
    judged text answer = .ok value ↔
      answer = value ∧ 200 ≤ value.2.status ∧ value.2.status < 300 := by
  rw [judged]
  split
  · next success =>
    rw [Except.ok.injEq, iff_self_and]
    rintro rfl
    exact Reply.succeeded_iff.mp success
  · next failure =>
    rw [Reply.succeeded_iff] at failure
    refine iff_of_false (by simp) ?_
    rintro ⟨rfl, success⟩
    exact failure success

theorem judged_eq_error_iff {text : String} {answer : Url × Reply} {error : ProvisionError} :
    judged text answer = .error error ↔ error = .status text answer.2.status ∧
      ¬ (200 ≤ answer.2.status ∧ answer.2.status < 300) := by
  rw [judged, ← Reply.succeeded_iff]
  split
  · next success => simp [success]
  · next failure => simp [failure, eq_comm]

theorem run_checkStatus (text : String) (answer : Url × Reply) (world : World) :
    run (checkStatus text answer) world = (judged text answer, world) := by
  rw [checkStatus, judged]
  split <;> rfl

section

variable {text : String} {attempt : Attempt} {answer other : Url × Reply}

theorem Attempt.Stayed.not_moved (stayed : attempt.Stayed answer) : ¬ attempt.Moved other := by
  rintro ⟨outcome, member⟩
  rw [stayed.1, Except.ok.injEq] at outcome
  exact stayed.2 (outcome ▸ member)

/-- A reply that has to name another place is no success. -/
theorem Attempt.Moved.not_succeeded (moved : attempt.Moved answer) :
    ¬ (attempt.outcome = .ok other ∧ 200 ≤ other.2.status ∧ other.2.status < 300) := by
  rintro ⟨outcome, success⟩
  rw [moved.1, Except.ok.injEq] at outcome
  subst outcome
  have member := moved.2
  simp only [List.mem_cons, List.not_mem_nil, or_false] at member
  omega

theorem Attempt.Moved.not_leadsTo (moved : attempt.Moved answer)
    (nowhere : ∀ place, ¬ Leads text answer.2 place) (target : String) :
    ¬ attempt.LeadsTo text target := by
  rintro ⟨other, place, ⟨outcome, _⟩, leads, _⟩
  rw [moved.1, Except.ok.injEq] at outcome
  subst outcome
  exact nowhere place leads

theorem Attempt.LeadsTo.unique {target place : String} (led : attempt.LeadsTo text target)
    (again : attempt.LeadsTo text place) : target = place := by
  obtain ⟨answer, url, ⟨outcome, _⟩, leads, rfl⟩ := led
  obtain ⟨answer', url', ⟨outcome', _⟩, leads', rfl⟩ := again
  rw [outcome, Except.ok.injEq] at outcome'
  subst outcome'
  rw [← redirectTarget_eq_ok_iff] at leads leads'
  rw [leads, Except.ok.injEq] at leads'
  rw [leads']

end

/-- What passes over the network in all. -/
def sentBy (first : Attempt) (second? : Option Attempt) : List (Request × Exchange) :=
  first.sent ++ (second?.map Attempt.sent).getD []

@[simp]
theorem sentBy_none (first : Attempt) : sentBy first none = first.sent := by
  simp [sentBy]

@[simp]
theorem sentBy_some (first second : Attempt) :
    sentBy first (some second) = first.sent ++ second.sent := rfl

/-- How asking for a URL ends, by what the last attempt came to. -/
inductive Ends (text : String) (first : Attempt) (second? : Option Attempt) :
    Except ProvisionError (Url × Reply) → Prop
  | unsent {fault : RequestFault} : (second?.getD first).outcome = .error fault →
      Ends text first second? (.error (.request (second?.getD first).target fault))
  | stayed {answer : Url × Reply} : (second?.getD first).Stayed answer →
      Ends text first second? (judged (second?.getD first).target answer)
  | astray {answer : Url × Reply} {fault : RedirectFault} : second? = none →
      first.Moved answer → redirectTarget text answer.2 = .error fault →
      Ends text first second? (.error (.invalidRedirect text fault))
  | movedAgain {second : Attempt} {answer : Url × Reply} : second? = some second →
      second.Moved answer → Ends text first second? (.error (.tooManyRedirects second.target))

/-- A redirect is followed once: there is a second attempt where the first is led elsewhere, the
last attempt is the one that counts, and each error names what it is about. -/
structure FollowsOnce (text : String) (first : Attempt) (second? : Option Attempt)
    (result : Except ProvisionError (Url × Reply)) : Prop where
  second : ∀ target, (∃ second ∈ second?, second.target = target) ↔ first.LeadsTo text target
  ok : ∀ answer, result = .ok answer ↔ (second?.getD first).outcome = .ok answer ∧
    200 ≤ answer.2.status ∧ answer.2.status < 300
  invalidRedirect : ∀ url, (∃ fault, result = .error (.invalidRedirect url fault)) ↔
    url = text ∧ ∃ answer, first.Moved answer ∧ ∀ place, ¬ Leads text answer.2 place
  tooManyRedirects : ∀ url, result = .error (.tooManyRedirects url) ↔
    ∃ second ∈ second?, second.target = url ∧ ∃ answer, second.Moved answer
  status : ∀ url code, result = .error (.status url code) ↔ (second?.getD first).target = url ∧
    ∃ answer, (second?.getD first).Stayed answer ∧ answer.2.status = code ∧
      ¬ (200 ≤ code ∧ code < 300)
  request : ∀ url fault, result = .error (.request url fault) ↔
    (second?.getD first).target = url ∧ (second?.getD first).outcome = .error fault

section

variable {text : String} {first : Attempt} {second? : Option Attempt}

/-- Nothing more is asked after a reply that leads nowhere. -/
theorem eq_none_of_not_leads {answer : Url × Reply}
    (second : ∀ target, (∃ second ∈ second?, second.target = target) ↔
      first.LeadsTo text target)
    (moved : first.Moved answer) (nowhere : ∀ place, ¬ Leads text answer.2 place) :
    second? = none := by
  cases second? with
  | none => rfl
  | some attempt =>
      exact absurd ((second _).mp ⟨attempt, rfl, rfl⟩) (moved.not_leadsTo nowhere _)

/-- Both errors of redirects are about the last attempt, which was redirected. -/
theorem exists_moved {url : String}
    (second : ∀ target, (∃ second ∈ second?, second.target = target) ↔
      first.LeadsTo text target)
    (redirected : (url = text ∧ ∃ answer, first.Moved answer ∧
        ∀ place, ¬ Leads text answer.2 place) ∨
      ∃ second ∈ second?, second.target = url ∧ ∃ answer, second.Moved answer) :
    ∃ answer, (second?.getD first).Moved answer := by
  rcases redirected with ⟨_, answer, moved, nowhere⟩ | ⟨other, isSecond, _, moved⟩
  · rw [eq_none_of_not_leads second moved nowhere]
    exact ⟨answer, moved⟩
  · cases isSecond
    exact moved

theorem followsOnce_of_unsent {fault : RequestFault}
    (second : ∀ target, (∃ second ∈ second?, second.target = target) ↔
      first.LeadsTo text target)
    (outcome : (second?.getD first).outcome = .error fault) :
    FollowsOnce text first second? (.error (.request (second?.getD first).target fault)) := by
  have unmoved : ¬ ∃ answer, (second?.getD first).Moved answer := by
    simp [Attempt.Moved, outcome]
  refine ⟨second, ?_, ?_, ?_, ?_, ?_⟩
  · simp [outcome]
  · exact fun url => iff_of_false (by simp) fun holds => unmoved (exists_moved second (.inl holds))
  · exact fun url => iff_of_false (by simp) fun holds => unmoved (exists_moved second (.inr holds))
  · simp [Attempt.Stayed, outcome]
  · simp [outcome]

theorem followsOnce_of_stayed {answer : Url × Reply}
    (second : ∀ target, (∃ second ∈ second?, second.target = target) ↔
      first.LeadsTo text target)
    (stayed : (second?.getD first).Stayed answer) :
    FollowsOnce text first second? (judged (second?.getD first).target answer) := by
  have unmoved : ¬ ∃ answer, (second?.getD first).Moved answer :=
    fun ⟨_, moved⟩ => stayed.not_moved moved
  refine ⟨second, ?_, ?_, ?_, ?_, ?_⟩
  · intro value
    rw [judged_eq_ok_iff, stayed.1, Except.ok.injEq]
  · exact fun url => iff_of_false (by simp [judged_eq_error_iff])
      fun holds => unmoved (exists_moved second (.inl holds))
  · exact fun url => iff_of_false (by simp [judged_eq_error_iff])
      fun holds => unmoved (exists_moved second (.inr holds))
  · intro url code
    rw [judged_eq_error_iff, ProvisionError.status.injEq]
    constructor
    · rintro ⟨⟨rfl, rfl⟩, failure⟩
      exact ⟨rfl, answer, stayed, rfl, failure⟩
    · rintro ⟨rfl, other, ⟨outcome, _⟩, rfl, failure⟩
      rw [stayed.1, Except.ok.injEq] at outcome
      subst outcome
      exact ⟨⟨rfl, rfl⟩, failure⟩
  · simp [judged_eq_error_iff, stayed.1]

theorem followsOnce_of_astray {answer : Url × Reply} {fault : RedirectFault}
    (second : ∀ target, (∃ second ∈ (none : Option Attempt), second.target = target) ↔
      first.LeadsTo text target)
    (moved : first.Moved answer) (leads : redirectTarget text answer.2 = .error fault) :
    FollowsOnce text first none (.error (.invalidRedirect text fault)) := by
  refine ⟨second, ?_, ?_, ?_, ?_, ?_⟩
  · exact fun value => iff_of_false (by simp) moved.not_succeeded
  · intro url
    constructor
    · rintro ⟨_, same⟩
      cases same
      exact ⟨rfl, answer, moved, not_leads_of_redirectTarget leads⟩
    · rintro ⟨rfl, _⟩
      exact ⟨fault, rfl⟩
  · simp
  · refine fun url code => iff_of_false (by simp) ?_
    rintro ⟨_, other, stayed, _⟩
    exact stayed.not_moved moved
  · simp [moved.1]

theorem followsOnce_of_movedAgain {attempt : Attempt} {answer : Url × Reply}
    (second : ∀ target, (∃ second ∈ some attempt, second.target = target) ↔
      first.LeadsTo text target)
    (moved : attempt.Moved answer) :
    FollowsOnce text first (some attempt) (.error (.tooManyRedirects attempt.target)) := by
  refine ⟨second, ?_, ?_, ?_, ?_, ?_⟩
  · exact fun value => iff_of_false (by simp) moved.not_succeeded
  · refine fun url => iff_of_false (by simp) ?_
    rintro ⟨_, answer, movedFirst, nowhere⟩
    cases eq_none_of_not_leads second movedFirst nowhere
  · intro url
    constructor
    · intro same
      cases same
      exact ⟨attempt, rfl, rfl, answer, moved⟩
    · rintro ⟨_, ⟨⟩, rfl, _⟩
      rfl
  · refine fun url code => iff_of_false (by simp) ?_
    rintro ⟨_, other, stayed, _⟩
    exact stayed.not_moved moved
  · simp [moved.1]

theorem Ends.followsOnce {result : Except ProvisionError (Url × Reply)}
    (ends : Ends text first second? result)
    (second : ∀ target, (∃ second ∈ second?, second.target = target) ↔
      first.LeadsTo text target) : FollowsOnce text first second? result := by
  cases ends with
  | unsent outcome => exact followsOnce_of_unsent second outcome
  | stayed stayed => exact followsOnce_of_stayed second stayed
  | astray alone moved leads =>
      subst alone
      exact followsOnce_of_astray second moved leads
  | movedAgain twice moved =>
      subst twice
      exact followsOnce_of_movedAgain second moved

end

/-- What comes of the second attempt, which nothing follows. -/
theorem run_again (text : String) (first : Attempt) (place : Url) (world : World) :
    ∃ (second : Attempt) (result : Except ProvisionError (Url × Reply)),
      second.target = place.text ∧ second.Over world.network ∧
      Ends text first (some second) result ∧
      run (do
        let answer ← send place.text
        if answer.2.redirects then throw (.tooManyRedirects place.text)
        checkStatus place.text answer) world = (result, later world second.sent) := by
  obtain ⟨second, made, there, sent⟩ := run_send place.text world
  rw [run_bind, sent, ← there]
  cases outcome : second.outcome with
  | error fault => exact ⟨second, _, rfl, made, .unsent outcome, rfl⟩
  | ok last =>
      simp only [Except.mapError]
      cases moves : last.2.redirects with
      | false =>
          exact ⟨second, _, rfl, made, .stayed ⟨outcome, Reply.redirects_eq_false_iff.mp moves⟩,
            run_checkStatus _ _ _⟩
      | true =>
          exact ⟨second, _, rfl, made,
            .movedAgain rfl ⟨outcome, Reply.redirects_iff.mp moves⟩, rfl⟩

/-- What is asked, and how that ends. -/
theorem run_get (text : String) (world : World) :
    ∃ (first : Attempt) (second? : Option Attempt) (result : Except ProvisionError (Url × Reply)),
      first.target = text ∧ first.Over world.network ∧
      (∀ second ∈ second?, second.Over (world.network.after first.sent)) ∧
      (∀ target, (∃ second ∈ second?, second.target = target) ↔ first.LeadsTo text target) ∧
      Ends text first second? result ∧
      run (get text) world =
        (result, later world (sentBy first second?)) := by
  obtain ⟨first, made, target, sent⟩ := run_send text world
  rw [get, run_bind, sent]
  cases outcome : first.outcome with
  | error fault =>
      refine ⟨first, none, _, target, made, by simp, ?_, .unsent outcome, ?_⟩
      · simp [Attempt.LeadsTo, Attempt.Moved, outcome]
      · simp [Except.mapError, target]
  | ok answer =>
      simp only [Except.mapError]
      cases moves : answer.2.redirects with
      | false =>
          have stayed : first.Stayed answer := ⟨outcome, Reply.redirects_eq_false_iff.mp moves⟩
          refine ⟨first, none, _, target, made, by simp, ?_, .stayed stayed, ?_⟩
          · simp [Attempt.LeadsTo, stayed.not_moved]
          · simp [run_checkStatus, target]
      | true =>
          have moved : first.Moved answer := ⟨outcome, Reply.redirects_iff.mp moves⟩
          simp only [Bool.not_true, Bool.false_eq_true, if_false]
          cases leads : redirectTarget text answer.2 with
          | error fault =>
              refine ⟨first, none, _, target, made, by simp, ?_, .astray rfl moved leads, ?_⟩
              · have nowhere := moved.not_leadsTo (not_leads_of_redirectTarget leads)
                simpa using nowhere
              · simp
          | ok place =>
              obtain ⟨second, result, there, madeThere, ends, again⟩ :=
                run_again text first place (later world first.sent)
              have led : first.LeadsTo text second.target :=
                ⟨answer, place, moved, redirectTarget_eq_ok_iff.mp leads, there.symm⟩
              refine ⟨first, some second, result, target, made, ?_, ?_, ends, ?_⟩
              · rintro attempt ⟨⟩
                exact madeThere
              · intro target
                constructor
                · rintro ⟨_, ⟨⟩, rfl⟩
                  exact led
                · exact fun other => ⟨second, rfl, led.unique other⟩
              · rw [sentBy_some, ← later_later]
                exact again

/-- One redirect is followed and no second. -/
theorem get_followsOnce (text : String) (world : World) :
    ∃ (first : Attempt) (second? : Option Attempt) (result : Except ProvisionError (Url × Reply)),
      first.target = text ∧ first.Over world.network ∧
      (∀ second ∈ second?, second.Over (world.network.after first.sent)) ∧
      (sentBy first second?).length ≤ 2 ∧
      FollowsOnce text first second? result ∧
      run (get text) world =
        (result, later world (sentBy first second?)) := by
  obtain ⟨first, second?, result, target, made, madeThere, second, ends, ran⟩ := run_get text world
  refine ⟨first, second?, result, target, made, madeThere, ?_, ends.followsOnce second, ran⟩
  have few := made.length_le
  cases second? with
  | none => simp; omega
  | some attempt =>
      have fewMore := (madeThere attempt rfl).length_le
      simp
      omega

end Fetch

end TemplateBuild
