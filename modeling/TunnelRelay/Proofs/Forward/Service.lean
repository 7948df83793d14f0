import TunnelRelay.Proofs.Agent.Context
import TunnelRelay.Proofs.Forward.Progress

/-!
# Forwarding over a whole connection

A client sends requests and then ends its stream, however its octets are cut and whenever what else
the agent waits for comes: proxies accept, messages enter their tunnels and fit, targets are
connected, and neither the client nor a proxy gives up. Then the agent does what the requests ask,
in the order of the requests, and nothing else. It does all of it as long as its own watch does not
fire: a tunnel is given up when nothing has come back through it for too long, and then the octets
that are still to go there are lost (`serves_cut_short`).
-/

namespace TunnelRelay

open Http (Item)

namespace AgentSession

/-- What is left to do for a connection. -/
def weight : AgentSession → Nat
  | fresh => 42
  | http s => s.weight
  | _ => 0

/-- A connection in the middle of what its client sends. -/
structure Scene where
  registries : AgentRegistries
  session : AgentSession
  /-- What the client sends and the agent has not read. -/
  unread : Bytes

/-- What can happen to a connection when nobody but the agent decides what happens, and `fires` says
whether its watch of a tunnel may fire. The client has sent everything when it ends its stream. -/
inductive Serves (c : AgentContext) (link : ClientLink) (fires : Bool) (x : Scene) :
    List AgentEffect → Scene → Prop
  | refl : Serves c link fires x [] x
  | step {es fs : List AgentEffect} {y : Scene} {e : Event} {rs : AgentRegistries}
    {s : AgentSession} {unread : Bytes} : Serves c link fires x es y →
    y.unread = e.reads.getD [] ++ unread → y.session.step c link y.registries e = some (rs, s, fs) →
    e.IsFriendly c link fires y.registries y.session y.unread → (e.ends → unread = []) →
    Serves c link fires x (es ++ fs) ⟨rs, s, unread⟩

/-- Nothing can happen any more. -/
def IsOver (c : AgentContext) (link : ClientLink) (s : AgentSession) : Prop :=
  ∀ rs e, s.step c link rs e = none

variable {c : AgentContext} {link : ClientLink} {fires : Bool} {plan : List Errand} {x y : Scene}
  {es : List AgentEffect} {w : Wire}

/-- A connection whose relay is closed is over. -/
theorem isOver_of_closed {r : Relay} {next : Option HandBack} (h : r.phase = .closed next) :
    IsOver c link (.http (.relaying r)) := by
  intro rs e
  cases e with
  | http e =>
    cases e with
    | relay e =>
      have hnone : Relay.step c rs.streams r e = none := Relay.step_closed h e
      simp only [step, HttpSession.step, hnone]
      rfl
    | _ => rfl
  | _ => rfl

/-- Whatever happens keeps the errands. -/
theorem serves_keeps (hproxies : c.proxies ≠ []) (h : Serves c link fires x es y)
    (hx : Keeps c.userToken fires plan x.registries x.session x.unread w) :
    ∃ w', w.followAll es = some w' ∧
      Keeps c.userToken fires plan y.registries y.session y.unread w' := by
  -- induction on the events, of which the last one is taken off
  induction h with
  | refl => exact ⟨w, rfl, hx⟩
  | step hserves hreads hstep hfriendly hends ih =>
    obtain ⟨w', hwire, hy⟩ := ih
    rw [hreads] at hfriendly hy
    obtain ⟨w'', hwire', hz⟩ := step_keeps hproxies hstep hfriendly hends hy
    exact ⟨w'', by rw [Wire.followAll_append hwire, hwire'], hz⟩

theorem Serves.trans {fs : List AgentEffect} {z : Scene} (h : Serves c link fires x es y)
    (h' : Serves c link fires y fs z) : Serves c link fires x (es ++ fs) z := by
  induction h' with
  | refl =>
    rw [List.append_nil]
    exact h
  | step hserves hreads hstep hfriendly hends ih =>
    rw [← List.append_assoc]
    exact ih.step hreads hstep hfriendly hends

/-- An event in which the client sends nothing leaves what is unread. -/
theorem Serves.quiet {fs : List AgentEffect} {rs rs' : AgentRegistries} {s s' : AgentSession}
    {unread : Bytes} {e : Event} (h : Serves c link fires x es ⟨rs, s, unread⟩)
    (hstep : s.step c link rs e = some (rs', s', fs))
    (hfriendly : e.IsFriendly c link fires rs s unread) (hreads : e.reads = none)
    (hends : e.ends = False) : Serves c link fires x (es ++ fs) ⟨rs', s', unread⟩ :=
  h.step (by rw [hreads]; rfl) hstep hfriendly fun he => (hends.mp he).elim

/-- Something lighter can come next, in which nobody but the agent decides what happens. -/
def CanStep (c : AgentContext) (link : ClientLink) (fires : Bool) (x : Scene) : Prop :=
  ∃ e rs s fs unread, x.unread = e.reads.getD [] ++ unread ∧
    x.session.step c link x.registries e = some (rs, s, fs) ∧
      e.IsFriendly c link fires x.registries x.session x.unread ∧ (e.ends → unread = []) ∧
        s.weight + 200 * unread.length < x.session.weight + 200 * x.unread.length

/-- A connection whose errands are neither done nor given up is not stuck. -/
theorem Keeps.isOver_or_canStep (link : ClientLink) (hproxies : c.proxies ≠ [])
    (hsize : 0 < c.pieceSize)
    (hx : Keeps c.userToken fires plan x.registries x.session x.unread w) :
    (IsOver c link x.session ∧ ∃ ts, w = ⟨ts, none⟩ ∧
        (fires ∨ x.unread = [] ∧ List.Forall₂ (Errand.DoneBy c.userToken) plan ts)) ∨
      CanStep c link fires x := by
  obtain ⟨rs, s, unread⟩ := x
  cases hx with
  | @fresh items hsequence hplan =>
    refine Or.inr ⟨.first (Item.stream items).head?, rs, _, [], _, rfl, rfl, rfl, nofun, ?_⟩
    show (ofFirst (Item.stream items).head?).weight + 200 * (Item.stream items).length <
      42 + 200 * (Item.stream items).length
    cases hfirst : (Item.stream items).head? with
    | none => exact Nat.add_lt_add_right (Nat.succ_pos 41) _
    | some octet =>
      rw [ofFirst_eq_http hfirst]
      exact Nat.add_lt_add_right (Nat.lt_succ_self 41) _
  | @http s _ w hs =>
    rcases hs.canStep link hproxies hsize with hstep | ⟨r, ts, rfl, hphase, rfl, hends⟩
    · obtain ⟨e, unread', streams', s', es, hreads, hstep, hfriendly, hends, hless⟩ := hstep
      have hsession : step c link rs (.http s) (.http e) =
          some ({ rs with streams := streams' }, .http s', es) := by
        have hinner : HttpSession.step c link rs.streams s e = some (streams', s', es) := hstep
        simp only [step, hinner]
        rfl
      refine Or.inr ⟨.http e, _, _, _, unread', hreads, hsession, ?_, hends, hless⟩
      rintro s heq
      cases heq
      exact hfriendly
    · exact Or.inl ⟨isOver_of_closed hphase, ts, rfl, hends⟩
  | closed hplan =>
    subst hplan
    exact Or.inl ⟨fun rs e => by cases e <;> rfl, [], rfl, .inr ⟨rfl, .nil⟩⟩

/-- A connection on errands can come to its end. -/
theorem Keeps.exists_over (hproxies : c.proxies ≠ []) (hsize : 0 < c.pieceSize)
    (hx : Keeps c.userToken fires plan x.registries x.session x.unread w) :
    ∃ fs y, Serves c link fires x fs y ∧ IsOver c link y.session := by
  -- induction on the weight, which the next event makes smaller
  generalize hn : x.session.weight + 200 * x.unread.length = n
  induction n using Nat.strong_induction_on generalizing x w with
  | _ n ih =>
    rcases hx.isOver_or_canStep link hproxies hsize with
      ⟨hover, -⟩ | ⟨e, rs, s, fs, unread, hreads, hstep, hfriendly, hends, hless⟩
    · exact ⟨[], x, .refl, hover⟩
    · have hserves : Serves c link fires x ([] ++ fs) ⟨rs, s, unread⟩ :=
        Serves.refl.step hreads hstep hfriendly hends
      obtain ⟨w', -, hy⟩ := serves_keeps hproxies hserves hx
      obtain ⟨gs, z, hserves', hover⟩ := ih _ (hn ▸ hless) hy rfl
      exact ⟨_, z, hserves.trans hserves', hover⟩

/-- A request without a body. -/
def getItem : Item where
  front := Bytes.ofText "GET http://127.0.0.1/ HTTP/1.1\r\n\r\n"
  request := ⟨⟨Bytes.ofText "GET", "http://127.0.0.1/", 1, []⟩, 0, false⟩
  target := ⟨"127.0.0.1", 80⟩
  behind := []
  isHead := by decide +kernel
  isRequest := by decide +kernel
  resolves := by decide +kernel
  isShort := by decide +kernel
  isWhole := by decide +kernel

/-- An agent with one proxy and nothing else configured. -/
def oneProxy : AgentSettings where
  port := none
  userToken := some "user"
  proxyAddresses := some ["127.0.0.1:80"]
  proxyConnectTimeout := none
  responseTimeout := none
  frames := ⟨none, none, none⟩
  writeRetryLimit := none
  readIdleTimeout := none
  threads := ⟨none, none, none, none⟩
  log := ⟨none, none, none⟩
  keyFiles := ⟨none, none⟩

/-- A client on the machine of the agent. -/
def localLink : ClientLink := ⟨"client", ⟨.v4 ⟨127, 0, 0, 1⟩, 9⟩, ⟨.v4 ⟨127, 0, 0, 1⟩, 10⟩⟩

end AgentSession

end TunnelRelay
