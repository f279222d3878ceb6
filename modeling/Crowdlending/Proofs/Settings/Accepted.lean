import Crowdlending.Proofs.Settings.Keys

/-!
# What accepted settings are

Settings that are accepted have a key to sign with, no two keys of one name and none without a
name, and two issuers that differ. Lifetimes that nothing is said about are a quarter of an hour
for access, a day for a refresh, and thirty days for one that is extended.
-/
namespace Crowdlending.Settings
open Json Number Text

section Read
variable {vars : Variables} {t : TokenSettings} {b : Basic}

/-- Token settings come from their variables. -/
structure ReadsTokens (vars : Variables) (t : TokenSettings) : Prop where
  keys : ∃ text, required vars "JWT_KEYS" = .ok text ∧ readKeys text = .ok t.keys
  accessIssuer : required vars "JWT_ACCESS_TOKEN_ISSUER" = .ok t.accessIssuer
  accessTtl : duration vars "JWT_ACCESS_TOKEN_TTL" "15m" = .ok t.accessTtl
  refreshIssuer : required vars "JWT_REFRESH_TOKEN_ISSUER" = .ok t.refreshIssuer
  refreshTtl : duration vars "JWT_REFRESH_TOKEN_TTL" "24h" = .ok t.refreshTtl
  extendedTtl : duration vars "JWT_REFRESH_TOKEN_EXTENDED_TTL" "720h" = .ok t.extendedTtl
  issuers : t.accessIssuer ≠ t.refreshIssuer

theorem readTokens_eq_ok_iff : readTokens vars = .ok t ↔ ReadsTokens vars t := by
  constructor
  · intro h
    obtain ⟨text, htext, h⟩ := Result.bind_eq_ok.mp h
    split at h
    · next keys hkeys =>
        obtain ⟨_, hsame, h⟩ := Result.bind_eq_ok.mp h
        cases hsame
        obtain ⟨accessIssuer, haccess, h⟩ := Result.bind_eq_ok.mp h
        obtain ⟨accessTtl, haccessTtl, h⟩ := Result.bind_eq_ok.mp h
        obtain ⟨refreshIssuer, hrefresh, h⟩ := Result.bind_eq_ok.mp h
        obtain ⟨refreshTtl, hrefreshTtl, h⟩ := Result.bind_eq_ok.mp h
        obtain ⟨extendedTtl, hextendedTtl, h⟩ := Result.bind_eq_ok.mp h
        simp only [Result.throw_if_eq_ok] at h
        obtain ⟨hdiffer, h⟩ := h
        cases h
        exact ⟨⟨text, htext, hkeys⟩, haccess, haccessTtl, hrefresh, hrefreshTtl, hextendedTtl,
          hdiffer⟩
    · obtain ⟨_, hsame, -⟩ := Result.bind_eq_ok.mp h
      cases hsame
  · rintro ⟨⟨text, htext, hkeys⟩, haccess, haccessTtl, hrefresh, hrefreshTtl, hextendedTtl, hdiffer⟩
    simp only [readTokens, htext, hkeys, haccess, haccessTtl, hrefresh, hrefreshTtl, hextendedTtl,
      bind, Except.bind, if_neg hdiffer]
    rfl

/-- Mail settings come from their variables; mail that is sent has a host. -/
structure ReadsMail (vars : Variables) (m : MailSettings) : Prop where
  enabled : boolean vars "SMTP_ENABLED" false = .ok m.enabled
  host : m.host = (vars "SMTP_HOST").getD ""
  hosted : m.enabled = true → m.host ≠ ""
  portNumber : number vars "SMTP_PORT" maxU16 1025 = .ok m.portNumber

theorem readMail_eq_ok_iff {m : MailSettings} : readMail vars = .ok m ↔ ReadsMail vars m := by
  constructor
  · intro h
    obtain ⟨enabled, henabled, h⟩ := Result.bind_eq_ok.mp h
    simp only [Result.throw_if_eq_ok] at h
    obtain ⟨hhosted, h⟩ := h
    obtain ⟨portNumber, hport, h⟩ := Result.bind_eq_ok.mp h
    cases h
    exact ⟨henabled, rfl, fun hon hnone => hhosted ⟨hon, String.isEmpty_iff.mpr hnone⟩, hport⟩
  · obtain ⟨enabled, host, portNumber⟩ := m
    rintro ⟨henabled, rfl, hhosted, hport⟩
    simp only at henabled hhosted hport
    have hfree : ¬(enabled = true ∧ ((vars "SMTP_HOST").getD "").isEmpty = true) := fun h =>
      hhosted h.1 (String.isEmpty_iff.mp h.2)
    simp only [readMail, henabled, hport, bind, Except.bind, if_neg hfree]
    rfl

/-- Settings come from their variables, within their ranges. -/
structure Reads (vars : Variables) (b : Basic) : Prop where
  databaseUrl : required vars "DATABASE_URL" = .ok b.databaseUrl
  maxConnections : number vars "DB_MAX_CONNECTIONS" maxU32 5 = .ok b.maxConnections
  hashCost : number vars "BCRYPT_COST" maxU32 12 = .ok b.hashCost
  hashCostRange : 4 ≤ b.hashCost ∧ b.hashCost ≤ 31
  tokens : ReadsTokens vars b.tokens
  keySetTtl : number vars "JWKS_CACHE_TTL_SECONDS" maxU64 300 = .ok b.keySetTtl
  countryCode : b.countryCode = optional vars "DEFAULT_COUNTRY_CODE" "+62"
  countryCodeHead : b.countryCode.toList.head? = some '+'
  mail : ReadsMail vars b.mail
  queueCapacity : number vars "NOTIFICATION_QUEUE_CAPACITY" maxU64 256 = .ok b.queueCapacity
  queueCapacityPos : b.queueCapacity ≠ 0
  rpcAddress : b.rpcAddress = optional vars "GRPC_BIND_ADDRESS" "0.0.0.0:50051"
  httpAddress : b.httpAddress = optional vars "HTTP_BIND_ADDRESS" "0.0.0.0:8080"
  keySetUrl : b.keySetUrl = vars.given? "JWKS_URL"
  openMethods : b.openMethods = readNames (optional vars "AUTH_EXCLUDED_METHODS" defaultOpenMethods)
  sender : b.sender = optional vars "NOTIFICATION_FROM" "loan@service.com"
  logJson : b.logJson = (lowerAscii ((vars "LOG_FORMAT").getD "") = "json" : Bool)

theorem read_eq_ok_iff : read vars = .ok b ↔ Reads vars b := by
  constructor
  · intro h
    obtain ⟨databaseUrl, hdatabase, h⟩ := Result.bind_eq_ok.mp h
    obtain ⟨maxConnections, hconnections, h⟩ := Result.bind_eq_ok.mp h
    obtain ⟨hashCost, hcost, h⟩ := Result.bind_eq_ok.mp h
    simp only [Result.throw_if_eq_ok] at h
    obtain ⟨hrange, h⟩ := h
    obtain ⟨tokens, htokens, h⟩ := Result.bind_eq_ok.mp h
    obtain ⟨keySetTtl, hkeySet, h⟩ := Result.bind_eq_ok.mp h
    simp only [Result.throw_if_eq_ok] at h
    obtain ⟨hcountry, h⟩ := h
    obtain ⟨mail, hmail, h⟩ := Result.bind_eq_ok.mp h
    obtain ⟨queueCapacity, hqueue, h⟩ := Result.bind_eq_ok.mp h
    simp only [Result.throw_if_eq_ok] at h
    obtain ⟨hpos, h⟩ := h
    cases h
    exact {
      databaseUrl := hdatabase
      maxConnections := hconnections
      hashCost := hcost
      hashCostRange := by simp only; omega
      tokens := readTokens_eq_ok_iff.mp htokens
      keySetTtl := hkeySet
      countryCode := rfl
      countryCodeHead := Decidable.not_not.mp hcountry
      mail := readMail_eq_ok_iff.mp hmail
      queueCapacity := hqueue
      queueCapacityPos := hpos
      rpcAddress := rfl
      httpAddress := rfl
      keySetUrl := rfl
      openMethods := rfl
      sender := rfl
      logJson := rfl }
  · intro h
    have hrange : ¬(b.hashCost < 4 ∨ 31 < b.hashCost) := by
      have := h.hashCostRange
      omega
    simp only [Settings.read, h.databaseUrl, h.maxConnections, h.hashCost,
      readTokens_eq_ok_iff.mpr h.tokens, h.keySetTtl, ← h.countryCode, h.countryCodeHead,
      readMail_eq_ok_iff.mpr h.mail, h.queueCapacity, bind, Except.bind, if_neg hrange,
      if_neg h.queueCapacityPos, ne_eq, not_true_eq_false, if_false, ← h.rpcAddress,
      ← h.httpAddress, ← h.keySetUrl, ← h.openMethods, ← h.sender, ← h.logJson]
    rfl

structure TokensInOrder (vars : Variables) (t : TokenSettings) : Prop where
  keys : KeysInOrder t.keys
  issuers : t.accessIssuer ≠ t.refreshIssuer
  accessTtl : duration vars "JWT_ACCESS_TOKEN_TTL" "15m" = .ok t.accessTtl
  refreshTtl : duration vars "JWT_REFRESH_TOKEN_TTL" "24h" = .ok t.refreshTtl
  extendedTtl : duration vars "JWT_REFRESH_TOKEN_EXTENDED_TTL" "720h" = .ok t.extendedTtl

theorem tokensInOrder_of_read (h : read vars = .ok b) : TokensInOrder vars b.tokens := by
  have htokens := (read_eq_ok_iff.mp h).tokens
  obtain ⟨text, -, hkeys⟩ := htokens.keys
  exact ⟨keysInOrder_of_readKeys hkeys, htokens.issuers, htokens.accessTtl, htokens.refreshTtl,
    htokens.extendedTtl⟩

/-! ## Lifetimes -/

/-- The lifetimes that tokens have unless the settings say otherwise. -/
structure DefaultLifetimes (t : TokenSettings) : Prop where
  access : t.accessTtl = 900
  refresh : t.refreshTtl = 86400
  extended : t.extendedTtl = 2592000

theorem duration_of_absent {name default : String} {n : ℕ} (habsent : vars.given? name = none)
    (h : readDuration default = .ok n) : duration vars name default = .ok n := by
  simp only [duration, optional, habsent, Option.getD_none, h]

theorem defaultLifetimes_of_read (h : read vars = .ok b)
    (haccess : vars.given? "JWT_ACCESS_TOKEN_TTL" = none)
    (hrefresh : vars.given? "JWT_REFRESH_TOKEN_TTL" = none)
    (hextended : vars.given? "JWT_REFRESH_TOKEN_EXTENDED_TTL" = none) :
    DefaultLifetimes b.tokens := by
  have htokens := tokensInOrder_of_read h
  have hquarter : readDuration "15m" = .ok 900 := by decide +kernel
  have hday : readDuration "24h" = .ok 86400 := by decide +kernel
  have hmonth : readDuration "720h" = .ok 2592000 := by decide +kernel
  constructor
  · exact Except.ok.inj (htokens.accessTtl.symm.trans (duration_of_absent haccess hquarter))
  · exact Except.ok.inj (htokens.refreshTtl.symm.trans (duration_of_absent hrefresh hday))
  · exact Except.ok.inj (htokens.extendedTtl.symm.trans (duration_of_absent hextended hmonth))

end Read

end Crowdlending.Settings
