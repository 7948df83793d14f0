import TunnelRelay.Proofs.Http.Forwarding

/-!
# Where a request goes

A target that is a URL with a host loses the host when it is forwarded. The request goes to that
host, and to the port of the URL or of its scheme, just if the target starts with `http://` in
letters of any case. With any other start the host header decides, whatever the URL says.
-/

namespace TunnelRelay.Http

variable {h : Head} {u : Url} {host : Url.Host}

/-- The request goes to this host and to the port of the URL, whatever the headers are. -/
def Head.GoesTo (h : Head) (u : Url) (host : Url.Host) : Prop :=
  ∀ headers, ∃ port : UInt16, u.portOrDefault = some port.toNat ∧
    ({ h with headers } : Head).targetAddress = .ok (host.toText, port)

/-- A target that names its host names it with the scheme that this start spells. -/
theorem Head.scheme_of_namesHost (hnames : h.namesHost)
    (hurl : Url.ofText h.target.toList = .ok u) :
    u.scheme = "http".toList ∧ ∀ n ∈ u.port, n < 65536 := by
  obtain ⟨scheme, rest, hcut, hassembled⟩ := Url.assembled_of_ofText hurl
  have hstart : (h.target.toList.take httpStart.length).map Char.toLower = httpStart :=
    eq_of_beq hnames
  have hinside : ∀ c ∈ h.target.toList.take httpStart.length, Url.isOutside c = false := by
    intro c hc
    rw [← Bool.not_eq_true]
    intro houtside
    have hmem := List.mem_map_of_mem (f := Char.toLower) hc
    rw [hstart, Url.toLower_of_isOutside houtside] at hmem
    have hall : httpStart.all (!Url.isOutside ·) := by decide
    have hnot := List.all_eq_true.mp hall c hmem
    rw [houtside] at hnot
    cases hnot
  have hne : h.target.toList.take httpStart.length ≠ [] := by
    intro hnil
    rw [hnil] at hstart
    cases hstart
  obtain ⟨r, hr⟩ := Url.trim_append hinside hne (h.target.toList.drop httpStart.length)
  rw [List.take_append_drop] at hr
  rw [hr] at hcut
  have hscheme : scheme = "http".toList :=
    Url.scheme_of_start (q := ['/', '/']) hstart (by decide) hcut
  obtain ⟨_, port, _, _, hport⟩ := hassembled
  exact ⟨hscheme, hport⟩

/-- A target that names its host decides where the request goes. -/
theorem Head.goesTo_of_namesHost (hnames : h.namesHost)
    (hurl : Url.ofText h.target.toList = .ok u) (hhost : u.host = some host)
    (hconnect : h.isConnect = false) : h.GoesTo u host := by
  obtain ⟨hscheme, hport⟩ := scheme_of_namesHost hnames hurl
  intro headers
  have hauthority : ({ h with headers } : Head).authority = .ok h.target.toList := by
    have hconnect' : ({ h with headers } : Head).isConnect = false := hconnect
    have hnames' : ({ h with headers } : Head).namesHost := hnames
    rw [authority, hconnect', if_neg Bool.false_ne_true, if_pos hnames']
  have hsome : ∃ n, u.portOrDefault = some n ∧ n < 65536 := by
    rw [Url.portOrDefault, hscheme]
    cases hu : u.port with
    | none => exact ⟨80, rfl, by decide⟩
    | some n => exact ⟨n, rfl, hport n hu⟩
  obtain ⟨n, hn, hlt⟩ := hsome
  refine ⟨UInt16.ofNat n, ?_, ?_⟩
  · rw [hn, UInt16.toNat_ofNat_of_lt' hlt]
  · rw [targetAddress, hauthority]
    simp only [bind, Except.bind, hurl, Except.mapError, hhost, hn]

/-- Without a host header a target that does not name its host leads nowhere. -/
theorem Head.targetAddress_of_no_headers (hnames : h.namesHost = false)
    (hconnect : h.isConnect = false) :
    ({ h with headers := [] } : Head).targetAddress = .error (.noHostHeader h.target) := by
  have hconnect' : ({ h with headers := [] } : Head).isConnect = false := hconnect
  have hnames' : ({ h with headers := [] } : Head).namesHost = false := hnames
  rw [targetAddress, authority, hconnect', hnames']
  rfl

/-- **A URL whose host is cut off leads to that host** just if it starts with `http://`. -/
theorem goesTo_iff_namesHost (hurl : Url.ofText h.target.toList = .ok u)
    (hhost : u.host = some host) (hconnect : h.isConnect = false) :
    h.originTarget = String.ofList u.inside ∧ (h.GoesTo u host ↔ h.namesHost) := by
  refine ⟨Head.originTarget_of_url hurl (Option.isSome_of_eq_some hhost) hconnect, ?_, ?_⟩
  · intro hgoes
    by_contra hnames
    obtain ⟨port, -, haddress⟩ := hgoes []
    rw [Head.targetAddress_of_no_headers (Bool.eq_false_iff.mpr hnames) hconnect] at haddress
    cases haddress
  · exact fun hnames => Head.goesTo_of_namesHost hnames hurl hhost hconnect

/-- A head that names one host in its target and another one in its header. -/
def twoHosts (target : String) : Head :=
  ⟨Bytes.ofText "GET", target, 1, [⟨Bytes.ofText "Host", Bytes.ofText "127.0.0.2"⟩]⟩

/-- The address 127.0.0.1. -/
def loopback : Url.Host := .address (.v4 (Ip.V4.ofNat 0x7F000001))

theorem twoHosts_goes_to_target :
    let u : Url := ⟨"http".toList, some loopback, some 8080, "/x".toList, none⟩
    Url.ofText (twoHosts "HTTP://127.0.0.1:8080/x").target.toList = .ok u ∧
      (twoHosts "HTTP://127.0.0.1:8080/x").isConnect = false ∧
        (twoHosts "HTTP://127.0.0.1:8080/x").GoesTo u loopback := by
  intro u
  have hurl : Url.ofText (twoHosts "HTTP://127.0.0.1:8080/x").target.toList = .ok u := by
    decide +kernel
  have hconnect : (twoHosts "HTTP://127.0.0.1:8080/x").isConnect = false := by decide +kernel
  have hnames : (twoHosts "HTTP://127.0.0.1:8080/x").namesHost := by decide +kernel
  exact ⟨hurl, hconnect, (goesTo_iff_namesHost hurl rfl hconnect).2.mpr hnames⟩

/-- A URL of another scheme loses its host, and the request goes to the other one. -/
theorem twoHosts_goes_astray :
    Http.head (Bytes.ofText "GET https://127.0.0.1/x HTTP/1.1\r\nHost: 127.0.0.2\r\n\r\n") =
        .complete (twoHosts "https://127.0.0.1/x") [] ∧
      (twoHosts "https://127.0.0.1/x").isConnect = false ∧
        Url.ofText (twoHosts "https://127.0.0.1/x").target.toList =
          .ok ⟨"https".toList, some loopback, none, "/x".toList, none⟩ ∧
        (twoHosts "https://127.0.0.1/x").originTarget = "/x" ∧
          (twoHosts "https://127.0.0.1/x").targetAddress = .ok ("127.0.0.2", 80) := by
  exact ⟨by decide +kernel, by decide +kernel, by decide +kernel, by decide +kernel,
    by decide +kernel⟩

end TunnelRelay.Http
