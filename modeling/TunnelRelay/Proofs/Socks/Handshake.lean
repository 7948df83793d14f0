import TunnelRelay.Agent.Session
import TunnelRelay.Proofs.Scan
import TunnelRelay.Scan.Reading

/-!
# The handshake of a client that comes in pieces

A client sends a greeting, a command and whatever is for its target as one stream. The reader of the
greeting hands what it holds to the reader of the command, and what that holds in the end is for the
target. Both find the same in every cut of the stream, and the session of the client goes the way
that they find.
-/

namespace TunnelRelay

namespace Socks

/-- What the reader of a client's greeting comes to. -/
def readGreeting (pieces : List Bytes) : Scan.Reading Error (List AuthMethod) :=
  greeting.read [] pieces

/-- What the reader of a client's command comes to, when a greeting has been found. -/
def readRequest (pieces : List Bytes) : Scan.Reading Error Request :=
  request.read (readGreeting pieces).held (readGreeting pieces).unread

/-- What is found of a command, and what is left, depends on what stands behind the greeting. -/
theorem readRequest_spec {pieces : List Bytes} {ms : List AuthMethod} {behind : Bytes}
    (h : greeting pieces.flatten = .complete ms behind) :
    (readRequest pieces).answer = (request.next behind).1 ∧
      (readRequest pieces).left = (request.next behind).2 := by
  obtain ⟨-, hleft⟩ := stable_greeting.read_spec [] pieces
  rw [List.nil_append, Scan.next, h] at hleft
  have hread := stable_request.read_spec (readGreeting pieces).held (readGreeting pieces).unread
  rwa [show (readGreeting pieces).held ++ (readGreeting pieces).unread.flatten = behind from hleft]
    at hread

end Socks

/-! ## The session -/

namespace SocksSession

variable {α : Type}

/-- Where a session is that waits with `waits` for what a scanner is to find, and goes on from there
with `found`. -/
def scanned (s : Scan Socks.Error α) (waits : Bytes → SocksSession)
    (found : α → Bytes → SocksSession) (held : Bytes) : SocksSession :=
  match s held with
  | .incomplete => waits held
  | .invalid _ => closed
  | .complete a rest => found a rest

theorem greeted_eq (held : Bytes) :
    greeted held = scanned Socks.greeting greeting (fun _ => choosing) held := by
  unfold greeted scanned
  cases Socks.greeting held <;> rfl

theorem commanded_eq (link : ClientLink) (proxies : List ProxyAddress) (held : Bytes) :
    commanded link proxies held = scanned Socks.request command (obey link proxies) held := by
  unfold commanded scanned
  cases Socks.request held <;> rfl

/-- Where it is when its reader has come to this. -/
def settled (waits : Bytes → SocksSession) (found : α → Bytes → SocksSession)
    (r : Scan.Reading Socks.Error α) : SocksSession :=
  match r.answer with
  | .ok none => waits r.held
  | .error _ => closed
  | .ok (some a) => found a r.held

theorem settled_read_of_ne_incomplete {s : Scan Socks.Error α} {held : Bytes}
    (h : s held ≠ .incomplete) (waits : Bytes → SocksSession) (found : α → Bytes → SocksSession)
    (pieces : List Bytes) :
    settled waits found (s.read held pieces) = scanned s waits found held := by
  rw [Scan.read_of_ne_incomplete h]
  unfold settled scanned Scan.next
  cases hs : s held with
  | incomplete => exact absurd hs h
  | invalid e => rfl
  | complete a rest => rfl

/-- Where a session is when its client has sent these pieces, and the session has answered the
greeting as soon as it was found. -/
def met (link : ClientLink) (proxies : List ProxyAddress) (pieces : List Bytes) : SocksSession :=
  settled greeting
    (fun _ _ => settled command (obey link proxies) (Socks.readRequest pieces))
    (Socks.readGreeting pieces)

end SocksSession

namespace AgentSession

open SocksSession (scanned settled)

variable {c : AgentContext} {link : ClientLink} {rs rs' : AgentRegistries} {s s' : AgentSession}
  {α : Type}

/-- Reads of these pieces, one after the other. -/
def reads (pieces : List Bytes) : List Event := pieces.map fun b => .socks (.read b)

/-- What the session of a client waits for whose stream comes in these pieces: reads, and between
them the answer to the greeting. -/
def handshake (pieces : List Bytes) : List Event :=
  reads (Socks.readGreeting pieces).taken ++
    match (Socks.readGreeting pieces).answer with
    | .ok (some _) => .socks (.wrote true) :: reads (Socks.readRequest pieces).taken
    | _ => []

/-- What the client has been told when the session has come that far. -/
def choices (pieces : List Bytes) : List AgentEffect :=
  match (Socks.readGreeting pieces).answer with
  | .ok (some _) => [.toClient (Socks.choice .noAuthentication)]
  | _ => []

/-- A session that puts nothing out goes on as if it had just come there. -/
theorem run_append_of_quiet {es es' : List Event} (h : run c link rs s es = some (rs', s', [])) :
    run c link rs s (es ++ es') = run c link rs' s' es' := by
  induction es generalizing rs s with
  | nil =>
    cases h
    rfl
  | cons e es ih =>
    obtain ⟨rs₁, s₁, first, more, hstep, hrun, hquiet⟩ := exists_of_run_cons h
    obtain ⟨rfl, rfl⟩ := List.append_eq_nil_iff.mp hquiet.symm
    rw [List.cons_append, run_cons hstep, ih hrun]
    cases run c link rs' s' es' <;> rfl

/-- A session that scans what it has read comes to where its reader comes. -/
theorem run_reads {scan : Scan Socks.Error α} {waits : Bytes → SocksSession}
    {found : α → Bytes → SocksSession}
    (hstep : ∀ held b, b ≠ [] → (waits held).step c link rs (.read b) =
      some (rs, scanned scan waits found (held ++ b), []))
    (held : Bytes) {pieces : List Bytes} (hpieces : ∀ b ∈ pieces, b ≠ []) :
    run c link rs (.socks (scanned scan waits found held)) (reads (scan.read held pieces).taken) =
      some (rs, .socks (settled waits found (scan.read held pieces)), []) := by
  induction pieces generalizing held with
  | nil =>
    simp only [Scan.read, reads, List.map_nil, run, scanned, settled, Scan.next]
    cases scan held <;> rfl
  | cons b pieces ih =>
    by_cases hincomplete : scan held = .incomplete
    · have hread : step c link rs (.socks (scanned scan waits found held)) (.socks (.read b)) =
          some (rs, .socks (scanned scan waits found (held ++ b)), []) := by
        simp only [step, scanned, hincomplete, hstep held b (hpieces b List.mem_cons_self)]
        rfl
      have hrest := ih (held ++ b) fun x hx => hpieces x (List.mem_cons_of_mem b hx)
      rw [Scan.read_cons hincomplete]
      simp only [reads, List.map_cons]
      rw [run_cons hread]
      exact (congrArg _ hrest).trans rfl
    · rw [SocksSession.settled_read_of_ne_incomplete hincomplete,
        Scan.read_of_ne_incomplete hincomplete]
      rfl

/-- **A session goes the way of its readers.** -/
theorem run_handshake (c : AgentContext) (link : ClientLink) (rs : AgentRegistries)
    {pieces : List Bytes} (hpieces : ∀ b ∈ pieces, b ≠ []) :
    run c link rs (.socks .start) (handshake pieces) =
      some (rs, .socks (.met link c.proxies pieces), choices pieces) := by
  have hgreets : ∀ held b, b ≠ [] → (SocksSession.greeting held).step c link rs (.read b) =
      some (rs, scanned Socks.greeting .greeting (fun _ => .choosing) (held ++ b), []) := by
    intro held b hb
    rw [← SocksSession.greeted_eq]
    exact if_neg hb
  have hcommands : ∀ held b, b ≠ [] → (SocksSession.command held).step c link rs (.read b) =
      some (rs, scanned Socks.request .command (.obey link c.proxies) (held ++ b), []) := by
    intro held b hb
    rw [← SocksSession.commanded_eq]
    exact if_neg hb
  have hgreeting : run c link rs (.socks .start) (reads (Socks.readGreeting pieces).taken) =
      some (rs, .socks (settled .greeting (fun _ => .choosing) (Socks.readGreeting pieces)), []) :=
    run_reads hgreets [] hpieces
  rw [handshake, run_append_of_quiet hgreeting]
  unfold SocksSession.met choices
  cases hanswer : (Socks.readGreeting pieces).answer with
  | error e =>
    simp only [settled, hanswer]
    rfl
  | ok found =>
    cases found with
    | none =>
      simp only [settled, hanswer]
      rfl
    | some ms =>
      have hunread : ∀ b ∈ (Socks.readGreeting pieces).unread, b ≠ [] := by
        intro b hb
        refine hpieces b ?_
        rw [← Scan.taken_append_unread Socks.greeting [] pieces]
        exact List.mem_append_right _ hb
      have hchosen : step c link rs (.socks (.choosing (Socks.readGreeting pieces).held))
          (.socks (.wrote true)) = some (rs, .socks (scanned Socks.request .command
            (.obey link c.proxies) (Socks.readGreeting pieces).held),
              [.toClient (Socks.choice .noAuthentication)]) := by
        rw [← SocksSession.commanded_eq]
        rfl
      have hcommand := run_reads hcommands (Socks.readGreeting pieces).held hunread
      simp only [settled, hanswer]
      rw [run_cons hchosen]
      exact (congrArg _ hcommand).trans rfl

end AgentSession

/-! ## The handshake -/

namespace Socks

/-- The octets of a greeting and of a command, nothing missing and nothing behind them. -/
structure Speaks (hello command : Bytes) (ms : List AuthMethod) (q : Request) : Prop where
  hello : greeting hello = .complete ms []
  command : request command = .complete q []

/-- Whatever the cut, both are found, and what trails them is left. -/
theorem Speaks.found {hello command trailing : Bytes} {ms : List AuthMethod} {q : Request}
    (h : Speaks hello command ms q) {pieces : List Bytes}
    (hstream : pieces.flatten = hello ++ command ++ trailing) :
    (readGreeting pieces).answer = .ok (some ms) ∧
      (readRequest pieces).answer = .ok (some q) ∧ (readRequest pieces).left = trailing := by
  have hfound : greeting pieces.flatten = .complete ms (command ++ trailing) := by
    rw [hstream, List.append_assoc]
    exact stable_greeting.complete_append h.hello (command ++ trailing)
  have hrequest := stable_request.complete_append h.command trailing
  obtain ⟨hanswer, -⟩ := stable_greeting.read_spec [] pieces
  obtain ⟨hcommanded, hleft⟩ := readRequest_spec hfound
  rw [List.nil_append, Scan.next, hfound] at hanswer
  rw [Scan.next, hrequest] at hcommanded hleft
  exact ⟨hanswer, hcommanded, hleft⟩

/-- How the handshake of a client is read that comes in pieces. -/
structure ReadsHandshake : Prop where
  greeting : Socks.greeting.Steady
  request : Socks.request.Steady
  /-- What is found of a greeting, and what is left, is what there is in the stream. -/
  greets : ∀ pieces : List Bytes,
    (readGreeting pieces).answer = (Socks.greeting.next pieces.flatten).1 ∧
      (readGreeting pieces).left = (Socks.greeting.next pieces.flatten).2
  /-- What is found of a command, and what is left, is what there is behind the greeting. -/
  commands : ∀ {pieces : List Bytes} {ms : List AuthMethod} {behind : Bytes},
    Socks.greeting pieces.flatten = .complete ms behind →
      (readRequest pieces).answer = (Socks.request.next behind).1 ∧
        (readRequest pieces).left = (Socks.request.next behind).2
  /-- The two readers take the pieces in their order. -/
  inOrder : ∀ pieces : List Bytes, (readGreeting pieces).taken ++ (readRequest pieces).taken ++
    (readRequest pieces).unread = pieces
  /-- A greeting and a command are found in every cut, and all that trails them is left. -/
  whole : ∀ {hello command : Bytes} {ms : List AuthMethod} {q : Request},
    Speaks hello command ms q → ∀ {trailing : Bytes} {pieces : List Bytes},
      pieces.flatten = hello ++ command ++ trailing →
        (readGreeting pieces).answer = .ok (some ms) ∧
          (readRequest pieces).answer = .ok (some q) ∧ (readRequest pieces).left = trailing
  /-- The session of a client reads just so, and it goes on from what has been found. -/
  session : ∀ (c : AgentContext) (link : ClientLink) (rs : AgentRegistries) {pieces : List Bytes},
    (∀ b ∈ pieces, b ≠ []) →
      AgentSession.run c link rs (.socks .start) (AgentSession.handshake pieces) =
        some (rs, .socks (.met link c.proxies pieces), AgentSession.choices pieces)
  /-- So it obeys the command with what has been read of what trails it. -/
  obeys : ∀ (c : AgentContext) (link : ClientLink) (rs : AgentRegistries) {hello command : Bytes}
    {ms : List AuthMethod} {q : Request}, Speaks hello command ms q →
      ∀ {trailing : Bytes} {pieces : List Bytes}, (∀ b ∈ pieces, b ≠ []) →
        pieces.flatten = hello ++ command ++ trailing →
          AgentSession.run c link rs (.socks .start) (AgentSession.handshake pieces) =
            some (rs, .socks (.obey link c.proxies q (readRequest pieces).held),
              [.toClient (choice .noAuthentication)])

/-- **A handshake is read the same in every cut** of the stream in which it comes. -/
theorem reads_handshake : ReadsHandshake where
  greeting := stable_greeting.steady
  request := stable_request.steady
  greets pieces := stable_greeting.read_spec [] pieces
  commands h := readRequest_spec h
  inOrder pieces := by
    rw [List.append_assoc, readRequest, Scan.taken_append_unread, readGreeting,
      Scan.taken_append_unread]
  whole hspeaks _ _ hstream := hspeaks.found hstream
  session c link rs _ hpieces := AgentSession.run_handshake c link rs hpieces
  obeys c link rs _ _ _ _ hspeaks _ _ hpieces hstream := by
    obtain ⟨hgreeted, hcommanded, -⟩ := hspeaks.found hstream
    rw [AgentSession.run_handshake c link rs hpieces]
    simp only [SocksSession.met, SocksSession.settled, AgentSession.choices, hgreeted, hcommanded]

/-- A handshake in single octets, and one octet for the target. -/
example : (readRequest ([5, 1, 0, 5, 1, 0, 1, 127, 0, 0, 1, 0, 80, 42].map fun x => [x])).left =
    [42] := by decide

end Socks

end TunnelRelay
