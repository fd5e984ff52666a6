import PeerTrust.Probe.Target
import PeerTrust.Proofs.Host.AddressHost
import PeerTrust.Proofs.Url.NetworkHost

/-!
# Hosts that a probe connects to

The host of a target goes to the hostname check as it stands. From a URL it comes without the
brackets around an address and, where it is an address, in a spelling that the check reads as this
address, however the URL spells it. A host that is a name is never taken for an address. A text gives
a target exactly when it is a URL for HTTP over TLS, since every such URL has a host.

Targets that do not come from a URL are not considered.
-/

namespace PeerTrust.ProbeTarget

open PeerTrust.Url PeerTrust.Path

section Brackets

/-! ### Brackets -/

variable {text : List Char}

/-- A text without brackets loses nothing at its end. -/
theorem dropEndWhile_of_bare (hclose : ']' ∉ text) :
    Text.dropEndWhile (· = ']') text = text := by
  change List.rdropWhile _ text = text
  rw [List.rdropWhile_eq_self_iff]
  intro hne hlast
  exact hclose (of_decide_eq_true hlast ▸ List.getLast_mem hne)

/-- A text without brackets loses nothing in front. -/
theorem dropWhile_of_bare (hopen : '[' ∉ text) : text.dropWhile (· = '[') = text := by
  cases text with
  | nil => rfl
  | cons c text =>
    refine List.dropWhile_cons_of_neg fun hc => hopen ?_
    exact of_decide_eq_true hc ▸ List.mem_cons_self

/-- The brackets around an address are what is taken off. -/
theorem bareHost_eq {host : Url.Host} (h : host.IsNetwork) : bareHost host = host.toText := by
  obtain ⟨-, hopen, hclose⟩ := h.toText
  have hplain (hwritten : host.written = host.toText) : bareHost host = host.toText := by
    rw [bareHost, hwritten, dropWhile_of_bare hopen, dropEndWhile_of_bare hclose]
  match host, h with
  | .domain _, _ => exact hplain rfl
  | .address (.v4 _), _ => exact hplain rfl
  | .address (.v6 octets), _ =>
    have hopen' : '[' ∉ (Address.v6 octets).toText ++ [']'] := by
      simp only [List.mem_append, not_or]
      exact ⟨hopen, by decide⟩
    rw [bareHost, Host.written, List.cons_append, List.dropWhile_cons_of_pos (by decide),
      dropWhile_of_bare hopen']
    change List.rdropWhile _ _ = _
    rw [List.rdropWhile_concat_pos _ _ _ (by decide)]
    exact dropEndWhile_of_bare hclose

end Brackets

/-- What the target of a URL says of where to connect and which host to expect there. -/
structure Targets (t : ProbeTarget) (url : Url) : Prop where
  /-- A name comes as it is, an address in its canonical text. -/
  host : ∃ host, url.host = some host ∧ t.host.toList = host.toText
  stated : t.host ≠ ""
  bare : '[' ∉ t.host.toList ∧ ']' ∉ t.host.toList
  /-- The hostname check reads an address exactly where the URL has one, and the same. -/
  address : ∀ a, Address.ofText? t.host.toList = some a ↔ url.host = some (.address a)
  /-- With an address for its host, the check goes by the octets that a certificate binds. -/
  octets : ∀ a, url.host = some (.address a) → ∀ c, matchesHost c t.host = true ↔ BindsAddress c a
  port : t.port = url.port.getD 443

/-- The scheme of HTTP over TLS is one for the network. -/
theorem ofScheme_of_scheme {url : Url} (h : String.ofList url.scheme = scheme) :
    SchemeKind.ofScheme url.scheme = .network := by
  rw [SchemeKind.ofScheme, h]
  rfl

/-- The target of a URL with a host of the network. -/
theorem targets_of {url : Url} {host : Url.Host} (hhost : url.host = some host)
    (h : host.IsNetwork) :
    (of (String.ofList (bareHost host)) (url.port.getD usualPort)).Targets url := by
  have htext : (String.ofList (bareHost host)).toList = host.toText := by
    rw [String.toList_ofList, bareHost_eq h]
  have haddress (a : Address) :
      Address.ofText? (String.ofList (bareHost host)).toList = some a ↔
        url.host = some (.address a) := by
    rw [htext, h.ofText?_toText, hhost, Option.some.injEq]
  obtain ⟨hne, hopen, hclose⟩ := h.toText
  refine ⟨⟨host, hhost, htext⟩, ?_, ⟨?_, ?_⟩, haddress, ?_, rfl⟩
  · intro hempty
    have hnil := congrArg String.toList hempty
    exact hne (htext.symm.trans hnil)
  · exact htext ▸ hopen
  · exact htext ▸ hclose
  · intro a ha c
    exact matchesHost_iff_bindsAddress ((haddress a).mpr ha)

/-- A URL gives a target, unless its scheme is another. -/
theorem ofUrl_of_ofText {text : List Char} {url : Url} (h : Url.ofText text = .ok url) :
    (String.ofList url.scheme = scheme ∧ ∃ t, ofUrl url = .ok t ∧ t.Targets url) ∨
      (String.ofList url.scheme ≠ scheme ∧
        ofUrl url = .error (.setup (.unsupportedScheme (String.ofList url.scheme)))) := by
  by_cases hscheme : String.ofList url.scheme = scheme
  · obtain ⟨host, hhost, hnetwork⟩ := exists_host_of_network h (ofScheme_of_scheme hscheme)
    refine .inl ⟨hscheme, _, ?_, targets_of hhost hnetwork⟩
    rw [ofUrl, if_neg (not_not.mpr hscheme), hhost]
  · refine .inr ⟨hscheme, ?_⟩
    rw [ofUrl]
    exact if_pos hscheme

/-- A text is refused as a URL exactly when it is none, and for its scheme exactly when this is not
that of HTTP over TLS; for nothing else, so never for want of a host. Any other text gives a target
whose host the hostname check can take as it stands. -/
theorem ofText_targets (text : String) :
    (∀ fault, ofText text = .error (.url fault) ↔ Url.ofText text.toList = .error fault) ∧
    (∀ name, ofText text = .error (.setup (.unsupportedScheme name)) ↔
      ∃ url, Url.ofText text.toList = .ok url ∧ String.ofList url.scheme = name ∧ name ≠ "https") ∧
    (∀ e, ofText text = .error e →
      (∃ fault, e = .url fault) ∨ ∃ name, e = .setup (.unsupportedScheme name)) ∧
    ofText text ≠ .error (.setup .missingHost) ∧
    ∀ t, ofText text = .ok t → ∃ url, Url.ofText text.toList = .ok url ∧
      String.ofList url.scheme = "https" ∧ t.Targets url := by
  cases hread : Url.ofText text.toList with
  | error fault =>
    have hfails : ofText text = .error (.url fault) := by rw [ofText, hread]
    simp [hfails]
  | ok url =>
    have hofUrl : ofText text = ofUrl url := by rw [ofText, hread]
    obtain ⟨hscheme, t, ht, htargets⟩ | ⟨hscheme, ht⟩ := ofUrl_of_ofText hread
    · have hname : String.ofList url.scheme = "https" := hscheme
      simp [hofUrl, ht, hname, htargets]
    · have hname : String.ofList url.scheme ≠ "https" := hscheme
      rw [hofUrl, ht]
      refine ⟨by simp, fun name => ?_, by simp, by simp, by simp⟩
      rw [Except.error.injEq, EngineError.setup.injEq, SetupFault.unsupportedScheme.injEq]
      constructor
      · rintro rfl
        exact ⟨url, rfl, rfl, hname⟩
      · rintro ⟨_, ⟨⟩, hsame, -⟩
        exact hsame

/-- The loopback address in brackets and with groups written out, and a port of its own: the target
has the address without either, and the check goes by its octets. -/
theorem ofText_targets_loopback :
    ofText "https://[0:0::1]:8443/" = .ok ⟨"::1", 8443, usualTimeout⟩ ∧
      Address.ofText? "::1".toList = some (.v6 (List.replicate 15 0 ++ [1])) ∧
      ∀ c, matchesHost c "::1" = true ↔ BindsAddress c (.v6 (List.replicate 15 0 ++ [1])) := by
  have hread : Url.ofText "https://[0:0::1]:8443/".toList = .ok
      ⟨"https".toList, some (.address (.v6 (List.replicate 15 0 ++ [1]))), some 8443⟩ := by
    decide +kernel
  have htarget : ofText "https://[0:0::1]:8443/" = .ok ⟨"::1", 8443, usualTimeout⟩ := by
    rw [ofText, hread]
    decide +kernel
  obtain ⟨-, -, -, -, htargets⟩ := ofText_targets "https://[0:0::1]:8443/"
  obtain ⟨url, hurl, -, h⟩ := htargets _ htarget
  have hsame := Except.ok.inj (hurl.symm.trans hread)
  subst hsame
  exact ⟨htarget, (h.address _).mpr rfl, h.octets _ rfl⟩

end PeerTrust.ProbeTarget
