import TunnelRelay.Proofs.Agent.Association.Exact

/-!
# An association that ends

Once an association is closed and nothing more is read from its tunnel, the client is sent nothing
more, whatever still happens, and the association can come to its end without anything coming in.
-/

namespace TunnelRelay.Association

variable {c : AgentContext} {id : String} {client : Ip} {all all' : Associations}
  {a a' : Association} {e : Event} {es : List Event} {done effects : List AgentEffect}

/-- The association is closed, and nothing more is read from its tunnel. -/
structure IsEnding (a : Association) : Prop where
  lifecycle : a.lifecycle = ⟨.closed, true⟩
  inbound : a.inbound = .ended
  outbound : ∀ left p, a.outbound ≠ .choosing left p

namespace IsEnding

/-- A leg that ends leaves it so. -/
theorem close {outbound : Outbound} (h : a.IsEnding) (hout : ∀ left p, outbound ≠ .choosing left p)
    (watching isOver : Bool) : (close { a with outbound, watching, isOver }).IsEnding where
  lifecycle := by
    rw [Association.close, h.lifecycle]
    rfl
  inbound := h.inbound
  outbound := hout

theorem endOutbound (h : a.IsEnding) :
    a.endOutbound.1.IsEnding ∧ AgentEffect.datagrams a.endOutbound.2 = [] := by
  refine ⟨h.close (by simp) a.watching a.isOver, ?_⟩
  unfold Association.endOutbound
  split <;> rfl

theorem receive (h : a.IsEnding) (proxies : List ProxyAddress) (sender : Endpoint) (b : Bytes) :
    (receive proxies sender b a).1.IsEnding ∧ (receive proxies sender b a).2 = [] := by
  obtain ⟨known, recipient, hreceive | ⟨p, hreceive⟩⟩ := receive_or_forward proxies sender b a
  · rw [hreceive]
    exact ⟨⟨h.lifecycle, h.inbound, h.outbound⟩, rfl⟩
  · have htunnel : a.inbound ≠ .absent := by simp [h.inbound]
    rw [hreceive, forward, if_pos htunnel]
    exact ⟨⟨h.lifecycle, h.inbound, by simp⟩, rfl⟩

/-- Whatever happens, the client is sent no datagram any more. -/
theorem step (h : a.IsEnding) (hstep : a.step c all e = some (all', a', effects)) :
    a'.IsEnding ∧ AgentEffect.datagrams effects = [] := by
  unfold Association.step at hstep
  split at hstep
  · cases hstep
  cases e with
  | datagram sender b =>
    obtain ⟨-, hstep⟩ := Option.ite_none_right_eq_some.mp hstep
    simp only [Option.some.injEq, Prod.mk.injEq] at hstep
    obtain ⟨hending, heffects⟩ := h.receive c.proxies sender b
    rw [hstep.2] at hending heffects
    obtain rfl : effects = [] := heffects
    exact ⟨hending, rfl⟩
  | receiveFailed =>
    obtain ⟨-, hstep⟩ := Option.ite_none_right_eq_some.mp hstep
    cases hstep
    exact h.endOutbound
  | outboundClosed =>
    obtain ⟨-, hstep⟩ := Option.ite_none_right_eq_some.mp hstep
    cases hstep
    exact h.endOutbound
  | tried accepted =>
    simp only at hstep
    split at hstep
    · rename_i left p hchoosing
      exact absurd hchoosing (h.outbound left p)
    · cases hstep
  | sent id outcome =>
    simp only at hstep
    split at hstep
    · split at hstep
      · cases hstep
        exact ⟨⟨h.lifecycle, h.inbound, by simp⟩, AgentEffect.datagrams_map_message _⟩
      · cases hstep
        refine ⟨h.endOutbound.1, ?_⟩
        rw [AgentEffect.datagrams_append, AgentEffect.datagrams_map_message, h.endOutbound.2]
        rfl
    · cases hstep
  | received r =>
    obtain ⟨hreading, -⟩ := Option.ite_none_right_eq_some.mp hstep
    rw [h.inbound] at hreading
    cases hreading
  | delivered success =>
    simp only [h.inbound] at hstep
    cases hstep
  | inboundClosed =>
    obtain ⟨hreading, -⟩ := Option.ite_none_right_eq_some.mp hstep
    rw [h.inbound] at hreading
    cases hreading
  | chatter =>
    obtain ⟨-, hstep⟩ := Option.ite_none_right_eq_some.mp hstep
    cases hstep
    exact ⟨h, rfl⟩
  | disconnected =>
    obtain ⟨-, hstep⟩ := Option.ite_none_right_eq_some.mp hstep
    cases hstep
    exact ⟨h.close h.outbound false a.isOver, rfl⟩
  | unwatched =>
    obtain ⟨-, hstep⟩ := Option.ite_none_right_eq_some.mp hstep
    cases hstep
    exact ⟨h.close h.outbound false a.isOver, rfl⟩
  | finished =>
    obtain ⟨-, hstep⟩ := Option.ite_none_right_eq_some.mp hstep
    cases hstep
    exact ⟨h.close h.outbound a.watching true, rfl⟩

theorem course (h : a.IsEnding) (hcourse : Course c all a es all' a' effects) :
    a'.IsEnding ∧ AgentEffect.datagrams effects = [] := by
  induction hcourse with
  | refl => exact ⟨h, rfl⟩
  | step hcourse hworks hstep ih =>
    obtain ⟨hending, hsilent⟩ := ih.1.step hstep
    refine ⟨hending, ?_⟩
    rw [AgentEffect.datagrams_append, ih.2, hsilent]
    rfl

/-- The leg to the proxy ends, after it has sent what it was sending. -/
theorem exists_outbound_ended (h : a.IsEnding) (hover : a.isOver = false) (c : AgentContext)
    (all : Associations) :
    ∃ es a' effects, Course c all a es all a' effects ∧ inputs es = [] ∧ a'.outbound = .ended ∧
      a'.isOver = false ∧ a'.id = a.id := by
  have hclosed {b : Association} (hb : b.IsEnding) (hover : b.isOver = false)
      (hreading : b.outbound = .reading) :
      Course c all b [.outboundClosed] all b.endOutbound.1 b.endOutbound.2 := by
    refine .single trivial ?_
    simp only [Association.step, visible, hb.lifecycle, hover, hreading]
    rfl
  cases hout : a.outbound with
  | ended => exact ⟨[], a, [], .refl, rfl, hout, hover, rfl⟩
  | choosing left p => exact absurd hout (h.outbound left p)
  | reading => exact ⟨_, _, _, hclosed h hover hout, rfl, rfl, hover, rfl⟩
  | sending p =>
    obtain ⟨effects, hsent⟩ := Course.exists_sent hover hout c all
    exact ⟨_, _, _, hsent.trans (hclosed (h.course hsent).1 hover rfl), rfl, rfl, hover, rfl⟩

/-- The leg that watches the client's connection ends. -/
theorem exists_unwatched (h : a.IsEnding) (hover : a.isOver = false) (c : AgentContext)
    (all : Associations) :
    ∃ es a' effects, Course c all a es all a' effects ∧ inputs es = [] ∧ a'.watching = false ∧
      a'.outbound = a.outbound ∧ a'.isOver = false ∧ a'.id = a.id := by
  cases hwatching : a.watching with
  | false => exact ⟨[], a, [], .refl, rfl, hwatching, rfl, hover, rfl⟩
  | true =>
    have hunwatched : a.step c all .unwatched =
        some (all, Association.close { a with watching := false }, []) := by
      simp only [Association.step, visible, h.lifecycle, hover, hwatching]
      rfl
    exact ⟨_, _, _, .single (e := .unwatched) trivial hunwatched, rfl, rfl, rfl, hover, rfl⟩

/-- **The association comes to its end**, whether or not anything comes in. -/
theorem exists_over (h : a.IsEnding) (hover : a.isOver = false) (c : AgentContext)
    (all : Associations) :
    ∃ es a' effects, Course c all a es (all.remove a.id) a' effects ∧ inputs es = [] ∧
      a'.isOver := by
  obtain ⟨es, b, effects, hcourse, hes, hout, hoverb, hid⟩ := h.exists_outbound_ended hover c all
  obtain ⟨es', b', effects', hcourse', hes', hwatching, hout', hover', hid'⟩ :=
    (h.course hcourse).1.exists_unwatched hoverb c all
  have hending := ((h.course hcourse).1.course hcourse').1
  have hfinished : b'.step c all .finished =
      some (all.remove a.id, Association.close { b' with isOver := true }, []) := by
    rw [← hid, ← hid']
    simp only [Association.step, visible, hover', hout', hout, hending.inbound, hwatching]
    rfl
  refine ⟨_, _, _, hcourse.trans (hcourse'.trans (.single (e := .finished) trivial hfinished)), ?_,
    rfl⟩
  rw [inputs_append, inputs_append, hes, hes']
  rfl

end IsEnding

/-- An association that reads a message that has no place in it is ending. -/
theorem Exact.isEnding {user : String} {ins : List Input} (h : Exact user id client ins a done)
    (hreading : a.inbound = .reading) : (close { a with inbound := .ended }).IsEnding where
  lifecycle := by
    rcases h.lifecycle with hl | hl <;> rw [close, hl] <;> rfl
  inbound := rfl
  outbound left p hchoosing := by
    have hup := h.up
    rw [show a.outbound = .choosing left p from hchoosing] at hup
    exact absurd (hup.of_choosing.2.2.symm.trans hreading) (by simp)

end TunnelRelay.Association
