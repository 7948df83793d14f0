import TunnelRelay.Proofs.Retry.Connect
import TunnelRelay.Proxy.Session

/-!
# What connecting a target comes to

A target is refused when every attempt that the policy allows fails, and when one succeeds the
target is there. There is a third outcome, of which the agent is told nothing: an attempt has
succeeded, but the address at the other end of its stream cannot be had any more; or the number of
attempts has no room in 32 bits. `contact_spec` tells the three apart by the events alone.
-/

namespace TunnelRelay.ProxySession

/-- One of the attempts that the limit allows succeeds: the first, or one of the retries. -/
def Connects (limit : UInt32) (script : List (Option StreamError)) : Prop :=
  ∃ i ≤ limit.toNat, attempt script i = .ok ()

/-- The target is lost before the agent can be told anything of it. -/
def IsLost (limit : UInt32) (script : List (Option StreamError)) (address : Option Endpoint) :
    Prop :=
  ¬limit.toNat + 1 < UInt32.size ∨ Connects limit script ∧ address = none

variable {limit : UInt32} {script : List (Option StreamError)} {address : Option Endpoint}

/-- With room for the number of attempts a target is lost for want of its address. -/
theorem isLost_iff_of_room (hlimit : limit.toNat + 1 < UInt32.size) :
    IsLost limit script address ↔ Connects limit script ∧ address = none :=
  or_iff_right (not_not_intro hlimit)

/-- Whatever attempts come to, they have been made. -/
theorem Contact.ofRun_snd (run : ConnectRun Unit) (address : Option Endpoint) :
    (Contact.ofRun run address).2 =
      run.attempts.map fun a => ProxyEffect.attempt ⟨a.host, a.port⟩ a.keepAlive := by
  obtain ⟨result, attempts, pauses⟩ := run
  cases result with
  | ok stream => cases address <;> rfl
  | error cause => rfl

/-- With room for the number of attempts the policy is honoured. -/
theorem exists_contact_of_room (hlimit : limit.toNat + 1 < UInt32.size) (m : Body AgentKind)
    (script : List (Option StreamError)) (address : Option Endpoint) :
    ∃ run : ConnectRun Unit,
      run.Honours (attempt script) ⟨m.host, m.port, m.kind = .connectWithKeepAlive⟩ limit ∧
        contact limit m script address = Contact.ofRun run address := by
  refine ⟨_, honours_connectFrom (attempt script) _ hlimit, ?_⟩
  rw [contact, connectWithRetry_of_room hlimit]

theorem contact_of_no_room (hlimit : ¬limit.toNat + 1 < UInt32.size) (m : Body AgentKind)
    (script : List (Option StreamError)) (address : Option Endpoint) :
    contact limit m script address = (.lost, []) := by
  rw [contact, connectWithRetry_eq_none_iff.mpr hlimit]

/-- **Connecting comes to one of three outcomes**, by what the connector answers, whether the target
has an address, and whether the attempts can be counted. -/
theorem contact_spec (limit : UInt32) (m : Body AgentKind) (script : List (Option StreamError))
    (address : Option Endpoint) :
    match (contact limit m script address).1 with
    | .made => Connects limit script ∧ ¬IsLost limit script address
    | .refused _ => ¬Connects limit script ∧ ¬IsLost limit script address
    | .lost => IsLost limit script address := by
  by_cases hlimit : limit.toNat + 1 < UInt32.size
  · obtain ⟨run, hrun, hcontact⟩ := exists_contact_of_room hlimit m script address
    have hresult := hrun.result
    rw [hcontact, isLost_iff_of_room hlimit]
    obtain ⟨result, attempts, pauses⟩ := run
    cases result with
    | ok stream =>
      have hconnects : Connects limit script := hresult
      cases address with
      | none => exact ⟨hconnects, rfl⟩
      | some e => exact ⟨hconnects, fun hlost => Option.some_ne_none e hlost.2⟩
    | error cause =>
      have hfails : ¬Connects limit script := by
        rintro ⟨i, hi, hconnected⟩
        obtain ⟨failure, hfailure⟩ := hresult i hi
        rw [hconnected] at hfailure
        cases hfailure
      exact ⟨hfails, fun hlost => hfails hlost.1⟩
  · rw [contact_of_no_room hlimit]
    exact .inl hlimit

theorem contact_eq_lost_iff (limit : UInt32) (m : Body AgentKind)
    (script : List (Option StreamError)) (address : Option Endpoint) :
    (contact limit m script address).1 = .lost ↔ IsLost limit script address := by
  have hspec := contact_spec limit m script address
  split at hspec
  · rename_i hmade
    exact iff_of_false (by rw [hmade]; nofun) hspec.2
  · rename_i cause hrefused
    exact iff_of_false (by rw [hrefused]; nofun) hspec.2
  · rename_i hlost
    exact iff_of_true hlost hspec

/-- Unless the attempts cannot be counted, the target that was asked for is tried. -/
theorem mem_contact (hlimit : limit.toNat + 1 < UInt32.size) (m : Body AgentKind)
    (script : List (Option StreamError)) (address : Option Endpoint) :
    .attempt ⟨m.host, m.port⟩ (m.kind = .connectWithKeepAlive) ∈
      (contact limit m script address).2 := by
  obtain ⟨run, hrun, hcontact⟩ := exists_contact_of_room hlimit m script address
  rw [hcontact, Contact.ofRun_snd]
  exact List.mem_map.mpr ⟨_, hrun.mem_attempts, rfl⟩

end TunnelRelay.ProxySession
