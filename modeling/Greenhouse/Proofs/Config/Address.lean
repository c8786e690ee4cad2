import Mathlib.Tactic.Common
import Greenhouse.Config.Basic
import Greenhouse.Proofs.Url.Network
import Greenhouse.Proofs.Url.Path

/-!
# The addresses of a backend

The backend has an address for requests and one for the streaming channel, and the second is made
from the first.  Where a configuration has been checked, both can be had, and they are on the same
host.  The channel has the path that the configuration gives it, which is brought into normal form
first, so that it need not be the one that was written.
-/

namespace Greenhouse.BackendConfig

section
variable {c : BackendConfig}

theorem exists_httpUrl (h : c.validate = .ok ()) :
  ∃ url, c.httpUrl = .ok url
  := by
  obtain ⟨url, hurl, _⟩ := bind_eq_ok.mp h
  use url, hurl

/-- The path of the channel starts with a slash. -/
theorem head?_wsPath (h : c.validate = .ok ()) :
  c.wsPath.toList.head? = some '/'
  := by
  obtain ⟨url, _, h⟩ := bind_eq_ok.mp h
  split at h
  · nomatch h
  · next hslash => apply not_not.mp hslash

/-- The address for requests is on the network. -/
theorem isReachable_of_httpUrl {url : Url} (h : c.httpUrl = .ok url) :
  (url.scheme = "http" ∨ url.scheme = "https") ∧ url.IsReachable
  := by
  unfold httpUrl at h
  split at h
  · nomatch h
  · next read hread =>
      split at h
      · next hscheme =>
          obtain rfl := Except.ok.inj h
          use hscheme
          apply Url.isReachable_of_parse hread
          rcases hscheme with hscheme | hscheme <;> rw [hscheme] <;> decide
      · nomatch h

/-- Both schemes name a host on the network, with the same default port. -/
theorem channel_scheme {scheme : String} (h : scheme = "http" ∨ scheme = "https") :
  let other := if scheme = "https" then "wss" else "ws"
  (scheme = "http" ∧ other = "ws" ∨ scheme = "https" ∧ other = "wss")
    ∧ Url.networkSchemes.contains scheme ∧ Url.networkSchemes.contains other
    ∧ Url.defaultPort? other = Url.defaultPort? scheme
  := by
  rcases h with rfl | rfl <;> decide

/-- The scheme of the address for requests can be exchanged, and the port is kept. -/
theorem websocketUrl_of_httpUrl {url : Url} (h : c.httpUrl = .ok url) :
  ∃ scheme, (url.scheme = "http" ∧ scheme = "ws" ∨ url.scheme = "https" ∧ scheme = "wss")
    ∧ (url.withScheme scheme).port = url.port
    ∧ c.websocketUrl = .ok (((url.withScheme scheme).withPath c.wsPath).withoutQuery)
  := by
  obtain ⟨hscheme, hreachable⟩ := isReachable_of_httpUrl h
  obtain ⟨heither, hnetwork, hother, hdefault⟩ := channel_scheme hscheme
  refine ⟨_, heither, hreachable.withScheme_port hdefault, bind_eq_ok.mpr ⟨url, h, ?_⟩⟩
  apply if_pos (hreachable.admitsScheme hnetwork hother)

theorem exists_websocketUrl (h : c.validate = .ok ()) :
  ∃ channel, c.websocketUrl = .ok channel
  := by
  obtain ⟨url, hurl⟩ := exists_httpUrl h
  obtain ⟨scheme, _, _, hchannel⟩ := websocketUrl_of_httpUrl hurl
  exact ⟨_, hchannel⟩

end

/-- What the address of the channel is, given the address for requests and a path: the scheme and
the path are exchanged, and there is no query. -/
structure IsChannel (url : Url) (wsPath : String) (channel : Url) : Prop where
  scheme : url.scheme = "http" ∧ channel.scheme = "ws" ∨ url.scheme = "https" ∧ channel.scheme = "wss"
  username : channel.username = url.username
  password : channel.password = url.password
  host : channel.host = url.host
  port : channel.port = url.port
  /-- The path is the one that is meant, whatever path the address for requests has. -/
  path : ∀ path, Url.IsPathOf wsPath path ↔ path = channel.path
  /-- A path without dots, backslashes, tabs and line breaks is only percent-encoded. -/
  plain_path : (∀ place ∈ Url.places wsPath, Url.IsPlain place)
    → (∀ c ∈ wsPath.toList, c ≠ '\\' ∧ Url.isBreak c = false)
    → channel.path = String.ofList (Percent.encode Percent.path wsPath.toList)
  query : channel.query = none
  fragment : url.fragment = none → channel.fragment = none

/-- A configuration of the backend that has been checked has an address for requests, and one for
the channel that is made from it. -/
theorem websocketUrl_of_validate {c : BackendConfig} (h : c.validate = .ok ()) :
  ∃ url channel, c.httpUrl = .ok url ∧ c.websocketUrl = .ok channel
    ∧ IsChannel url c.wsPath channel
  := by
  obtain ⟨url, hurl⟩ := exists_httpUrl h
  obtain ⟨scheme, hscheme, hport, hchannel⟩ := websocketUrl_of_httpUrl hurl
  have hspecial : Url.isSpecial (url.withScheme scheme).scheme = true := by
    rcases hscheme with ⟨_, rfl⟩ | ⟨_, rfl⟩ <;> rfl
  have hpath := Url.isPathOf_iff (head?_wsPath h) hspecial
  refine ⟨url, _, hurl, hchannel, ?_⟩
  exact {
    scheme := hscheme
    username := rfl
    password := rfl
    host := rfl
    port := hport
    path := hpath
    plain_path := fun hplain hclean =>
      ((hpath _).mp (Url.isPathOf_encode (head?_wsPath h) hplain hclean)).symm
    query := rfl
    fragment := id }

/-- A backend behind a user name and a password, with a port of its own. -/
def guarded : BackendConfig :=
  { standard with baseUrl := "https://ops:key@[::1]:9443/console?a", wsPath := "/./live feed" }

theorem websocketUrl_of_validate_guarded :
  guarded.validate = .ok ()
    ∧ ∃ url channel, guarded.httpUrl = .ok url ∧ guarded.websocketUrl = .ok channel
      ∧ IsChannel url guarded.wsPath channel
      ∧ channel.toText = "wss://ops:key@[::1]:9443/live%20feed"
  := by
  have hchecked : guarded.validate = .ok () := by decide +kernel
  have htext : guarded.websocketUrl.map Url.toText = .ok "wss://ops:key@[::1]:9443/live%20feed" := by
    decide +kernel
  obtain ⟨url, channel, hurl, hchannel, his⟩ := websocketUrl_of_validate hchecked
  rw [hchannel] at htext
  exact ⟨hchecked, url, channel, hurl, hchannel, his, Except.ok.inj htext⟩

/-- The path of the channel is not always the percent-encoded one that was written, and the fragment
of the address for requests is not cut off. -/
theorem websocketUrl_dots :
  let c : BackendConfig :=
    { standard with baseUrl := "http://[::1]:8000/old?a#top", wsPath := "/a/../b" }
  c.validate = .ok ()
    ∧ c.websocketUrl.map Url.toText = .ok "ws://[::1]:8000/b#top"
    ∧ c.websocketUrl.map Url.path = .ok "/b"
    ∧ String.ofList (Percent.encode Percent.path c.wsPath.toList) = "/a/../b"
    ∧ c.websocketUrl.map Url.fragment = .ok (some "top")
  := by
  decide +kernel

end Greenhouse.BackendConfig
