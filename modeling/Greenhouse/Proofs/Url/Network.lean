import Mathlib.Tactic.Common
import Greenhouse.Proofs.Outcome
import Greenhouse.Url.Basic

/-!
# Addresses on the network

An address that has been read, and whose scheme names a host on the network, has a host, and its
port is not the default one of its scheme.  So its scheme may be exchanged for another one that
names a host on the network, and the port is kept where both have the same default.
-/

namespace Greenhouse.Url

/-! ### Hosts -/

theorem ipv4Text_ne_empty (n : Nat) :
  Address.ipv4Text n ≠ ""
  := by
  rw [Address.ipv4Text, String.intercalate_cons_cons, ne_eq, String.append_eq_empty_iff,
    String.append_eq_empty_iff]
  rintro ⟨⟨_, hpoint⟩, _⟩
  nomatch hpoint

/-- The host of a special address has a name. -/
theorem specialHost_ne_empty {cs : List Char} {host : String} (h : specialHost cs = .ok host) :
  host ≠ ""
  := by
  unfold specialHost at h
  split at h
  · split at h
    · split at h
      · cases h
        rw [ne_eq, String.append_eq_empty_iff, String.append_eq_empty_iff]
        rintro ⟨⟨hbracket, _⟩, _⟩
        nomatch hbracket
      · nomatch h
    · nomatch h
  · split at h
    · nomatch h
    · nomatch h
    · next name hempty _ =>
        split at h
        · split at h
          · cases h
            apply ipv4Text_ne_empty
          · nomatch h
        · cases h
          rw [ne_eq, String.ofList_eq_empty_iff]
          apply hempty

/-! ### Ports -/

theorem readPort_ne_default {scheme : String} {cs rest : List Char} {port : Option Nat}
    (h : readPort scheme cs = .ok (port, rest)) {n : Nat} (hn : port = some n) :
  defaultPort? scheme ≠ some n
  := by
  unfold readPort at h
  dsimp only at h
  split at h
  · nomatch h
  · split at h
    · nomatch h
    · split at h
      · cases h
        nomatch hn
      · next hport =>
          cases h
          obtain rfl := Option.some.inj hn
          apply (not_or.mp hport).2

theorem portOf_ne_default {scheme : String} {cs rest : List Char} {port : Option Nat}
    (h : portOf scheme cs = .ok (port, rest)) {n : Nat} (hn : port = some n) :
  defaultPort? scheme ≠ some n
  := by
  unfold portOf at h
  split at h
  · apply readPort_ne_default h hn
  · cases h
    nomatch hn

/-! ### Whole addresses -/

/-- What is known of an address on the network that has been read: it has a host with a name, and
its port is not the default one. -/
structure IsReachable (u : Url) : Prop where
  host : ∃ host, u.host = some host ∧ host ≠ ""
  port : ∀ n, u.port = some n → defaultPort? u.scheme ≠ some n

section
variable {scheme : String} {cs : List Char} {u : Url}

theorem scheme_of_afterSlashes (h : afterSlashes scheme cs = .ok u) :
  u.scheme = scheme ∧ (isSpecial scheme → u.IsReachable)
  := by
  unfold afterSlashes at h
  obtain ⟨⟨username, password, cs⟩, _, h⟩ := bind_eq_ok.mp h
  dsimp only at h
  split at h
  · nomatch h
  · obtain ⟨host, hhost, h⟩ := bind_eq_ok.mp h
    split at h
    · nomatch h
    · obtain ⟨⟨port, cs⟩, hport, h⟩ := bind_eq_ok.mp h
      dsimp only at h
      split at h
      · nomatch h
      · cases h
        use rfl
        intro hspecial
        rw [hostOf, if_pos hspecial] at hhost
        exact ⟨⟨host, rfl, specialHost_ne_empty hhost⟩, fun n => portOf_ne_default hport⟩

theorem scheme_of_afterFile (h : afterFile cs = .ok u) :
  u.scheme = "file"
  := by
  unfold afterFile at h
  dsimp only at h
  split at h
  · split at h
    · split at h
      · cases h
        rfl
      · obtain ⟨host, _, h⟩ := bind_eq_ok.mp h
        cases h
        rfl
    · cases h
      rfl
  · cases h
    rfl

theorem scheme_of_afterScheme (h : afterScheme scheme cs = .ok u) :
  u.scheme = scheme ∧ (networkSchemes.contains scheme → u.IsReachable)
  := by
  unfold afterScheme at h
  split at h
  · next hfile =>
      rw [scheme_of_afterFile h, hfile]
      exact ⟨rfl, by nofun⟩
  · split at h
    · next hspecial =>
        obtain ⟨hscheme, hreachable⟩ := scheme_of_afterSlashes h
        exact ⟨hscheme, fun _ => hreachable hspecial⟩
    · next hspecial =>
        have hnetwork : networkSchemes.contains scheme → u.IsReachable := by
          intro hnetwork
          apply absurd _ hspecial
          rw [isSpecial, hnetwork, Bool.true_or]
        split at h
        · exact ⟨(scheme_of_afterSlashes h).1, hnetwork⟩
        · cases h
          exact ⟨rfl, hnetwork⟩

end

/-- An address that has been read is reachable when its scheme names a host on the network. -/
theorem isReachable_of_parse {text : String} {u : Url} (h : parse text = .ok u)
    (hscheme : networkSchemes.contains u.scheme) :
  u.IsReachable
  := by
  unfold parse at h
  dsimp only at h
  split at h
  · obtain ⟨rfl, hreachable⟩ := scheme_of_afterScheme h
    apply hreachable hscheme
  · nomatch h

/-! ### Exchanging the scheme -/

section
variable {u : Url} {scheme : String}

theorem isSpecial_of_network (hscheme : networkSchemes.contains scheme) :
  isSpecial scheme = true
  := by
  rw [isSpecial, hscheme, Bool.true_or]

/-- A reachable address takes every scheme that names a host on the network. -/
theorem IsReachable.admitsScheme (h : u.IsReachable) (hu : networkSchemes.contains u.scheme)
    (hscheme : networkSchemes.contains scheme) :
  u.admitsScheme scheme = true
  := by
  obtain ⟨host, hhost, hname⟩ := h.host
  have hfile : (scheme == "file") = false := by
    rw [beq_eq_false_iff_ne]
    rintro rfl
    nomatch hscheme
  simp [Url.admitsScheme, isSpecial_of_network hu, isSpecial_of_network hscheme, hhost, hname, hfile]

/-- The port is kept when the scheme is exchanged for one with the same default. -/
theorem IsReachable.withScheme_port (h : u.IsReachable)
    (hdefault : defaultPort? scheme = defaultPort? u.scheme) :
  (u.withScheme scheme).port = u.port
  := by
  dsimp only [withScheme]
  cases hport : u.port with
  | none => rfl
  | some n =>
      apply Option.filter_some_pos
      rw [hdefault, bne_iff_ne]
      apply h.port n hport

end

end Greenhouse.Url
