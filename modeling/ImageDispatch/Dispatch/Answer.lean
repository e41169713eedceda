import ImageDispatch.Facade.Call

/-!
# Answering requests

* `Host.answer`: what a dispatcher does on each request.
* `Host.nested`: a dispatcher that answers the requests of others while they run, and those that
  come while it answers these, down to a depth. Below that, requests are refused.
-/

namespace ImageDispatch.Host

variable {σ : Type}

open Act

/-- Calls a method of an algorithm that stays while it lasts. -/
def callDirectly (host : Host σ) (o : ObjectId) (token : Token) :
    DirectCall → Act σ Reply
  | .set p =>
    return .outcome (← host.invoke o (.set p) Except.isOk (host.env.code.set token p))
  | .get => return .parameter (← host.invoke o .get (fun _ => true) (host.env.code.get token))
  | .work job => do
    let (r, written) ←
      host.invoke o .work (fun answer => answer.1.isOk) (host.env.code.work token job)
    return .worked r (job.adopt written)
  | .rate frame =>
    return .rate (← host.invoke o .work Except.isOk (host.env.code.rate token frame))

/-- Calls a method of an algorithm that a client holds. -/
def direct (host : Host σ) (o : ObjectId) (call : DirectCall) : Act σ Reply := do
  let w ← get
  match w.objects[o]? with
  | some object =>
    if w.held.contains (.object o) then
      pin (.object o)
      let reply ← host.callDirectly o object.token call
      host.unpin (.object o)
      return reply
    else
      return .refused
  | none => return .refused

/-- Carries out a request. -/
def answer (host : Host σ) : Request → Act σ Reply
  | .facade kind => do
    let f ← host.makeFacade kind
    handOver (.facade f)
    return .facade f
  | .lease => do
    host.takeLease
    return .done
  | .hold r => hold r
  | .drop r => host.drop r
  | .set f p => setParameter f p
  | .process f task => host.process f task
  | .find q => return .found (← host.find q)
  | .create q => do
    match ← host.create q with
    | .ok o =>
      handOver (.object o)
      return .created (.ok o)
    | .error e => return .created (.error e)
  | .direct o call => host.direct o call
  | .load family static dynamic => return .descriptors (← host.load family static dynamic)
  | .increase => do
    host.increase
    emit (.tallied true)
    return .done
  | .decrease => do
    emit (.tallied false)
    host.decrease
    return .done

/-- The dispatcher that answers requests from within to a depth. -/
def nested (env : Environment σ) : Nat → Host σ
  | 0 => ⟨env, fun _ => return .refused⟩
  | depth + 1 => ⟨env, (nested env depth).answer⟩

/-- At every depth the code of others is the same. -/
@[simp] theorem nested_env (env : Environment σ) (depth : Nat) : (nested env depth).env = env := by
  cases depth <;> rfl

end ImageDispatch.Host
