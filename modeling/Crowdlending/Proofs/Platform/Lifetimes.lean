import Crowdlending.Proofs.Platform.Acceptance
import Crowdlending.Proofs.Settings.Duration

/-!
# From configured lifetimes to expiries

A lifetime that is accepted may be any number of seconds of 64 bits. On its way to an expiry it has
to fit twice more: into a span of time, and with the clock into a date. One that fits both times
ends when it was said to. One that gives no date stops the operation. And one that gives not even a
span counts as nothing, so that what was configured to last longest has expired already.
-/
namespace Crowdlending.Platform
open Token Account Settings

/-- The lifetime that the variables give to a kind of token. -/
def configured (vars : Variables) : Kind → Bool → Except SettingsFault ℕ
  | .access, _ => duration vars "JWT_ACCESS_TOKEN_TTL" "15m"
  | .refresh, false => duration vars "JWT_REFRESH_TOKEN_TTL" "24h"
  | .refresh, true => duration vars "JWT_REFRESH_TOKEN_EXTENDED_TTL" "720h"

/-- When claims expire that are made now with such a lifetime. -/
structure Expires (i : Issuer) (now : Int) (u : Subject) (kind : Kind) (extended : Bool) (ttl : ℕ) :
    Prop where
  dated : now + ttl ≤ lastSecond →
    ∃ c, i.claimsFor? now u kind extended = some c ∧ c.expiry = now + ttl
  undated : lastSecond < now + ttl → ttl ≤ longestTtl →
    i.claimsFor? now u kind extended = none
  endless : longestTtl < ttl →
    ∃ c, i.claimsFor? now u kind extended = some c ∧ c.expiry = now

section Settings
variable {vars : Variables} {b : Basic} {i : Issuer} {now : Int}

theorem configured_of_read (hread : read vars = .ok b)
    (hissuer : Issuer.ofSettings b.tokens = .ok i) (kind : Kind) (extended : Bool) :
    configured vars kind extended = .ok (i.ttlFor kind extended) := by
  have htokens := tokensInOrder_of_read hread
  obtain ⟨k, others, hkeys⟩ := List.exists_cons_of_ne_nil htokens.keys.some
  obtain ⟨-, -, -, haccess, hrefresh, hextended⟩ := Issuer.ofSettings_eq_ok hkeys hissuer
  cases kind with
  | access =>
      rw [Issuer.ttlFor, haccess]
      exact htokens.accessTtl
  | refresh =>
      cases extended with
      | false =>
          rw [Issuer.ttlFor, hrefresh]
          exact htokens.refreshTtl
      | true =>
          rw [Issuer.ttlFor, hextended]
          exact htokens.extendedTtl

theorem mem_range_of_configured {kind : Kind} {extended : Bool} {ttl : ℕ}
    (h : configured vars kind extended = .ok ttl) : 1 ≤ ttl ∧ ttl ≤ Number.maxU64 := by
  unfold configured at h
  split at h <;> exact mem_range_of_duration h

theorem exists_claims {u : Subject} {kind : Kind} {extended : Bool} {expiry : Int}
    (h : i.expiry? now kind extended = some expiry) :
    ∃ c, i.claimsFor? now u kind extended = some c ∧ c.expiry = expiry := by
  simp only [Issuer.claimsFor?, h]
  exact ⟨_, rfl, rfl⟩

theorem expires_ttlFor (i : Issuer) (hnonneg : 0 ≤ now) (hlast : now ≤ 253402300799) (u : Subject)
    (kind : Kind) (extended : Bool) :
    Expires i now u kind extended (i.ttlFor kind extended) := by
  constructor
  case dated =>
    intro hdated
    have hspan : i.ttlFor kind extended ≤ longestTtl := by
      unfold lastSecond at hdated
      unfold longestTtl
      omega
    refine exists_claims ?_
    simp only [Issuer.expiry?, if_pos hspan, if_pos hdated]
  case undated =>
    intro hundated hspan
    simp only [Issuer.claimsFor?, Issuer.expiry?, if_pos hspan, if_neg (Int.not_le.mpr hundated)]
    rfl
  case endless =>
    intro hspan
    have hnow : now + (0 : ℕ) ≤ lastSecond := by
      unfold lastSecond
      omega
    refine exists_claims ?_
    simp only [Issuer.expiry?, if_neg (Nat.not_le.mpr hspan), if_pos hnow]
    rw [Int.natCast_zero, Int.add_zero]

/-- Whatever settings are accepted: at any time from 1970 to the end of the year 9999, claims of any
kind expire after the configured lifetime if that is a date. Then a lifetime that is no longer, in
these settings or in others, ends no later. If it is no date, there are no claims; and if the
lifetime is longer than any span of time they expire at once. -/
theorem expires_of_settings (hread : read vars = .ok b)
    (hissuer : Issuer.ofSettings b.tokens = .ok i) (hnonneg : 0 ≤ now) (hlast : now ≤ 253402300799)
    (u : Subject) (kind : Kind) (extended : Bool) :
    ∃ ttl, configured vars kind extended = .ok ttl ∧ 1 ≤ ttl ∧ ttl ≤ Number.maxU64 ∧
      Expires i now u kind extended ttl ∧
      ∀ vars' b' i', read vars' = .ok b' → Issuer.ofSettings b'.tokens = .ok i' →
        ∃ ttl', configured vars' kind extended = .ok ttl' ∧
          (ttl' ≤ ttl → now + ttl ≤ lastSecond →
            ∃ c c', i.claimsFor? now u kind extended = some c ∧
              i'.claimsFor? now u kind extended = some c' ∧ c'.expiry ≤ c.expiry) := by
  have hconfigured := configured_of_read hread hissuer kind extended
  have hrange := mem_range_of_configured hconfigured
  have hexpires := expires_ttlFor i hnonneg hlast u kind extended
  refine ⟨i.ttlFor kind extended, hconfigured, hrange.1, hrange.2, hexpires, ?_⟩
  intro vars' b' i' hread' hissuer'
  refine ⟨_, configured_of_read hread' hissuer' kind extended, fun hle hdated => ?_⟩
  obtain ⟨c, hc, hexpiry⟩ := hexpires.dated hdated
  obtain ⟨c', hc', hexpiry'⟩ := (expires_ttlFor i' hnonneg hlast u kind extended).dated (by omega)
  exact ⟨c, c', hc, hc', by omega⟩

end Settings

/-- By default an access token expires a quarter of an hour after it was issued. -/
theorem expires_of_leastVariables :
    let u := Subject.ofUser (namedUser "First")
    read leastVariables = .ok leastBasic ∧
      Issuer.ofSettings leastBasic.tokens = .ok leastIssuer ∧
      ∃ c, leastIssuer.claimsFor? 1700000005 u .access false = some c ∧ c.expiry = 1700000905 := by
  intro u
  have hissuer : Issuer.ofSettings leastBasic.tokens = .ok leastIssuer := ofSettings_leastTokens
  obtain ⟨ttl, hconfigured, -, -, hexpires, -⟩ := expires_of_settings read_leastVariables hissuer
    (by decide : (0 : Int) ≤ 1700000005) (by decide) u .access false
  have hquarter : configured leastVariables .access false = .ok 900 := by decide +kernel
  obtain rfl : ttl = 900 := Except.ok.inj (hconfigured.symm.trans hquarter)
  exact ⟨read_leastVariables, hissuer, hexpires.dated (by decide)⟩

/-- The settings with nothing but what is required, and a lifetime for access tokens. -/
def lastingVariables (lifetime : String) : Variables := fun name =>
  match name == "JWT_ACCESS_TOKEN_TTL" with
  | true => some lifetime
  | false => leastVariables name

def lastingTokens (ttl : ℕ) : TokenSettings := { leastTokens with accessTtl := ttl }

def lastingBasic (ttl : ℕ) : Basic := { leastBasic with tokens := lastingTokens ttl }

theorem given?_lastingVariables (lifetime : String) {name : String}
    (h : name ≠ "JWT_ACCESS_TOKEN_TTL") :
    (lastingVariables lifetime).given? name = leastVariables.given? name := by
  simp only [Variables.given?, lastingVariables, beq_eq_false_iff_ne.mpr h]

theorem readTokens_lastingVariables {lifetime : String} {ttl : ℕ}
    (h : duration (lastingVariables lifetime) "JWT_ACCESS_TOKEN_TTL" "15m" = .ok ttl) :
    readTokens (lastingVariables lifetime) = .ok (lastingTokens ttl) := by
  have hrequired {name : String} (hname : name ≠ "JWT_ACCESS_TOKEN_TTL") :
      required (lastingVariables lifetime) name = required leastVariables name := by
    rw [required, required, given?_lastingVariables lifetime hname]
  have hduration {name default : String} (hname : name ≠ "JWT_ACCESS_TOKEN_TTL") :
      duration (lastingVariables lifetime) name default = duration leastVariables name default := by
    simp only [duration, Settings.optional, given?_lastingVariables lifetime hname]
  have hleast := readTokens_eq_ok_iff.mp readTokens_least
  obtain ⟨text, htext, hkeys⟩ := hleast.keys
  exact readTokens_eq_ok_iff.mpr {
    keys := ⟨text, (hrequired (by decide)).trans htext, hkeys⟩
    accessIssuer := (hrequired (by decide)).trans hleast.accessIssuer
    accessTtl := h
    refreshIssuer := (hrequired (by decide)).trans hleast.refreshIssuer
    refreshTtl := (hduration (by decide)).trans hleast.refreshTtl
    extendedTtl := (hduration (by decide)).trans hleast.extendedTtl
    issuers := hleast.issuers }

/-- The longest lifetime that still counts, and one more second. -/
theorem read_longest :
    read (lastingVariables "9223372036854775s") = .ok (lastingBasic 9223372036854775) ∧
      read (lastingVariables "9223372036854776s") = .ok (lastingBasic 9223372036854776) := by
  constructor <;> unfold Settings.read
  · have hduration : duration (lastingVariables "9223372036854775s") "JWT_ACCESS_TOKEN_TTL" "15m" =
      .ok 9223372036854775 := by decide +kernel
    rw [readTokens_lastingVariables hduration]
    rfl
  · have hduration : duration (lastingVariables "9223372036854776s") "JWT_ACCESS_TOKEN_TTL" "15m" =
      .ok 9223372036854776 := by decide +kernel
    rw [readTokens_lastingVariables hduration]
    rfl

theorem ofSettings_lastingBasic (ttl : ℕ) :
    Issuer.ofSettings (lastingBasic ttl).tokens =
      .ok { leastIssuer with accessTtl := ttl } := by
  have hkeys : (lastingBasic ttl).tokens.keys = [Sample.thirdKey] := rfl
  have hkey : Crypto.Rsa.signingKey Sample.thirdKey.privatePem = .ok Sample.thirdDer :=
    Sample.signingKey_third
  exact Issuer.ofSettings_of_signingKey hkeys hkey

/-- A lifetime that is accepted and is longer than any span of time: the token expires at once. With
a second less there is no token at all. -/
theorem expired_at_once :
    let u := Subject.ofUser (namedUser "First")
    ∃ i i', read (lastingVariables "9223372036854776s") = .ok (lastingBasic 9223372036854776) ∧
      Issuer.ofSettings (lastingBasic 9223372036854776).tokens = .ok i ∧
      (∃ c, i.claimsFor? 1700000005 u .access false = some c ∧ c.expiry = 1700000005) ∧
      read (lastingVariables "9223372036854775s") = .ok (lastingBasic 9223372036854775) ∧
      Issuer.ofSettings (lastingBasic 9223372036854775).tokens = .ok i' ∧
      i'.claimsFor? 1700000005 u .access false = none := by
  intro u
  exact ⟨_, _, read_longest.2, ofSettings_lastingBasic _, ⟨_, rfl, rfl⟩, read_longest.1,
    ofSettings_lastingBasic _, rfl⟩

end Crowdlending.Platform
