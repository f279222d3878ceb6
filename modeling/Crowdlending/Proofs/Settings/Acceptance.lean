import Crowdlending.Proofs.Platform.Acceptance
import Crowdlending.Proofs.Settings.Variables

/-!
# Which settings are accepted

Variables are accepted just if what is required is there, whatever else is given is of its kind and
in its range, and the few conditions hold that tie one variable to another. The order in which they
are looked at decides which fault is reported, not whether there is one.
-/
namespace Crowdlending.Settings
open Json Number Text

/-- The text deserialises to keys in order, with both halves of each the base 64 of a text. -/
structure WritesKeys (text : String) (written : List SigningKey) : Prop where
  list : (readText text).asList SigningKey.ofDoc = .ok written
  order : KeysInOrder written
  halves : ∀ k ∈ written,
    (∃ plain, EncodesText k.privatePem plain) ∧ ∃ plain, EncodesText k.publicPem plain

structure IsAcceptable (vars : Variables) : Prop where
  databaseUrl : ∃ v, Given vars "DATABASE_URL" v
  keys : ∃ text, Given vars "JWT_KEYS" text ∧ ∃ written, WritesKeys text written
  issuers : ∃ access refresh, Given vars "JWT_ACCESS_TOKEN_ISSUER" access ∧
    Given vars "JWT_REFRESH_TOKEN_ISSUER" refresh ∧ access ≠ refresh
  maxConnections : NumberIfGiven vars "DB_MAX_CONNECTIONS" 0 maxU32
  hashCost : NumberIfGiven vars "BCRYPT_COST" 4 31
  keySetTtl : NumberIfGiven vars "JWKS_CACHE_TTL_SECONDS" 0 maxU64
  portNumber : NumberIfGiven vars "SMTP_PORT" 0 maxU16
  queueCapacity : NumberIfGiven vars "NOTIFICATION_QUEUE_CAPACITY" 1 maxU64
  accessTtl : DurationIfGiven vars "JWT_ACCESS_TOKEN_TTL"
  refreshTtl : DurationIfGiven vars "JWT_REFRESH_TOKEN_TTL"
  extendedTtl : DurationIfGiven vars "JWT_REFRESH_TOKEN_EXTENDED_TTL"
  countryCode : ∀ v, Given vars "DEFAULT_COUNTRY_CODE" v → v.toList.head? = some '+'
  mail : SwitchIfGiven vars "SMTP_ENABLED"
  host : SaysYes vars "SMTP_ENABLED" → ∃ v, Given vars "SMTP_HOST" v

section Parts
variable {vars : Variables}

theorem exists_keys_iff {text : String} :
    (∃ keys, readKeys text = .ok keys) ↔ ∃ written, WritesKeys text written := by
  simp only [readKeys_eq_ok_iff]
  constructor
  · rintro ⟨keys, written, hlist, horder, hall⟩
    exact ⟨written, hlist, horder, exists_encodes_iff.mp ⟨keys, hall⟩⟩
  · rintro ⟨written, hlist, horder, hhalves⟩
    obtain ⟨keys, hall⟩ := exists_encodes_iff.mpr hhalves
    exact ⟨keys, written, hlist, horder, hall⟩

theorem exists_tokens_iff : (∃ t, ReadsTokens vars t) ↔
    (∃ text, Given vars "JWT_KEYS" text ∧ ∃ written, WritesKeys text written) ∧
      (∃ access refresh, Given vars "JWT_ACCESS_TOKEN_ISSUER" access ∧
        Given vars "JWT_REFRESH_TOKEN_ISSUER" refresh ∧ access ≠ refresh) ∧
      DurationIfGiven vars "JWT_ACCESS_TOKEN_TTL" ∧ DurationIfGiven vars "JWT_REFRESH_TOKEN_TTL" ∧
      DurationIfGiven vars "JWT_REFRESH_TOKEN_EXTENDED_TTL" := by
  have haccessDefault : ∃ n, readDuration "15m" = .ok n := ⟨900, by decide +kernel⟩
  have hrefreshDefault : ∃ n, readDuration "24h" = .ok n := ⟨86400, by decide +kernel⟩
  have hextendedDefault : ∃ n, readDuration "720h" = .ok n := ⟨2592000, by decide +kernel⟩
  simp only [← exists_keys_iff, ← required_eq_ok_iff,
    ← exists_duration_iff "JWT_ACCESS_TOKEN_TTL" haccessDefault,
    ← exists_duration_iff "JWT_REFRESH_TOKEN_TTL" hrefreshDefault,
    ← exists_duration_iff "JWT_REFRESH_TOKEN_EXTENDED_TTL" hextendedDefault]
  constructor
  · rintro ⟨t, h⟩
    obtain ⟨text, htext, hkeys⟩ := h.keys
    exact ⟨⟨text, htext, _, hkeys⟩, ⟨_, _, h.accessIssuer, h.refreshIssuer, h.issuers⟩,
      ⟨_, h.accessTtl⟩, ⟨_, h.refreshTtl⟩, _, h.extendedTtl⟩
  · rintro ⟨⟨text, htext, keys, hkeys⟩, ⟨access, refresh, haccess, hrefresh, hdiffer⟩,
      ⟨accessTtl, haccessTtl⟩, ⟨refreshTtl, hrefreshTtl⟩, extendedTtl, hextendedTtl⟩
    exact ⟨⟨keys, access, accessTtl, refresh, refreshTtl, extendedTtl⟩,
      ⟨text, htext, hkeys⟩, haccess, haccessTtl, hrefresh, hrefreshTtl, hextendedTtl, hdiffer⟩

theorem exists_mail_iff : (∃ m, ReadsMail vars m) ↔
    SwitchIfGiven vars "SMTP_ENABLED" ∧
      (SaysYes vars "SMTP_ENABLED" → ∃ v, Given vars "SMTP_HOST" v) ∧
      NumberIfGiven vars "SMTP_PORT" 0 maxU16 := by
  have hhost : (∃ v, Given vars "SMTP_HOST" v) ↔ (vars "SMTP_HOST").getD "" ≠ "" := by
    rw [← getD_given?, ← not_iff_not, not_exists, ← given?_eq_none_iff, not_not]
    cases h : vars.given? "SMTP_HOST" with
    | none => simp
    | some v => simpa using (given?_eq_some_iff.mp h).2
  rw [hhost, ← exists_number_iff maxU16 1025 (Nat.zero_le _) (by decide) le_rfl]
  constructor
  · rintro ⟨m, henabled, hm, hhosted, hport⟩
    obtain ⟨hswitch, hon⟩ := boolean_eq_ok_iff.mp henabled
    have hmost := number_le (by decide) hport
    exact ⟨hswitch, fun hyes => hm ▸ hhosted (hon.mpr hyes), _, hport, Nat.zero_le _, hmost⟩
  · rintro ⟨hswitch, hhosted, portNumber, hport, -⟩
    obtain ⟨on, hon⟩ : ∃ on : Bool, on = true ↔ SaysYes vars "SMTP_ENABLED" := by
      by_cases hyes : SaysYes vars "SMTP_ENABLED"
      · exact ⟨true, by simpa using hyes⟩
      · exact ⟨false, by simpa using hyes⟩
    exact ⟨⟨on, (vars "SMTP_HOST").getD "", portNumber⟩, boolean_eq_ok_iff.mpr ⟨hswitch, hon⟩, rfl,
      fun h => hhosted (hon.mp h), hport⟩

theorem countryCode_iff :
    (optional vars "DEFAULT_COUNTRY_CODE" "+62").toList.head? = some '+' ↔
      ∀ v, Given vars "DEFAULT_COUNTRY_CODE" v → v.toList.head? = some '+' := by
  rw [forall_given_iff, optional]
  cases vars.given? "DEFAULT_COUNTRY_CODE" with
  | none => exact iff_of_true (by decide) (by simp)
  | some v => simp

theorem exists_reads_iff : (∃ b, Reads vars b) ↔ IsAcceptable vars := by
  constructor
  · rintro ⟨b, h⟩
    obtain ⟨hkeys, hissuers, haccess, hrefresh, hextended⟩ := exists_tokens_iff.mp ⟨_, h.tokens⟩
    obtain ⟨hswitch, hhost, hport⟩ := exists_mail_iff.mp ⟨_, h.mail⟩
    have hqueue := Nat.one_le_iff_ne_zero.mpr h.queueCapacityPos
    exact {
      databaseUrl := ⟨_, required_eq_ok_iff.mp h.databaseUrl⟩
      keys := hkeys
      issuers := hissuers
      maxConnections := (exists_number_iff maxU32 5 (by decide) (by decide) le_rfl).mp
        ⟨_, h.maxConnections, Nat.zero_le _, number_le (by decide) h.maxConnections⟩
      hashCost := (exists_number_iff maxU32 12 (by decide) (by decide) (by decide)).mp
        ⟨_, h.hashCost, h.hashCostRange⟩
      keySetTtl := (exists_number_iff maxU64 300 (by decide) (by decide) le_rfl).mp
        ⟨_, h.keySetTtl, Nat.zero_le _, number_le (by decide) h.keySetTtl⟩
      portNumber := hport
      queueCapacity := (exists_number_iff maxU64 256 (by decide) (by decide) le_rfl).mp
        ⟨_, h.queueCapacity, hqueue, number_le (by decide) h.queueCapacity⟩
      accessTtl := haccess
      refreshTtl := hrefresh
      extendedTtl := hextended
      countryCode := countryCode_iff.mp (h.countryCode ▸ h.countryCodeHead)
      mail := hswitch
      host := hhost }
  · intro h
    obtain ⟨databaseUrl, hdatabase⟩ := h.databaseUrl
    obtain ⟨tokens, htokens⟩ :=
      exists_tokens_iff.mpr ⟨h.keys, h.issuers, h.accessTtl, h.refreshTtl, h.extendedTtl⟩
    obtain ⟨mail, hmail⟩ := exists_mail_iff.mpr ⟨h.mail, h.host, h.portNumber⟩
    obtain ⟨maxConnections, hconnections, -⟩ :=
      (exists_number_iff maxU32 5 (by decide) (by decide) le_rfl).mpr h.maxConnections
    obtain ⟨hashCost, hcost, hrange⟩ :=
      (exists_number_iff maxU32 12 (by decide) (by decide) (by decide)).mpr h.hashCost
    obtain ⟨keySetTtl, hkeySet, -⟩ :=
      (exists_number_iff maxU64 300 (by decide) (by decide) le_rfl).mpr h.keySetTtl
    obtain ⟨queueCapacity, hqueue, hpos, -⟩ :=
      (exists_number_iff maxU64 256 (by decide) (by decide) le_rfl).mpr h.queueCapacity
    exact ⟨⟨databaseUrl, _, _, maxConnections, hashCost, tokens, _, keySetTtl, _, _, mail,
      queueCapacity, _, _⟩, {
      databaseUrl := required_eq_ok_iff.mpr hdatabase
      maxConnections := hconnections
      hashCost := hcost
      hashCostRange := hrange
      tokens := htokens
      keySetTtl := hkeySet
      countryCode := rfl
      countryCodeHead := countryCode_iff.mpr h.countryCode
      mail := hmail
      queueCapacity := hqueue
      queueCapacityPos := Nat.one_le_iff_ne_zero.mp hpos
      rpcAddress := rfl
      httpAddress := rfl
      keySetUrl := rfl
      openMethods := rfl
      sender := rfl
      logJson := rfl }⟩

/-- On success the keys are those of the list, one for one and in its order. -/
theorem keys_of_read {b : Basic} (h : read vars = .ok b) :
    ∃ text written, Given vars "JWT_KEYS" text ∧ WritesKeys text written ∧
      List.Forall₂ Encodes written b.tokens.keys := by
  obtain ⟨text, htext, hkeys⟩ := (read_eq_ok_iff.mp h).tokens.keys
  obtain ⟨written, hlist, horder, hall⟩ := readKeys_eq_ok_iff.mp hkeys
  exact ⟨text, written, required_eq_ok_iff.mp htext,
    ⟨hlist, horder, exists_encodes_iff.mp ⟨_, hall⟩⟩, hall⟩

end Parts

/-- Settings are read just if the variables are acceptable, the keys then are those of the list in
its order, and a variable that is set to nothing makes no difference, not even to the fault
reported. -/
theorem read_exactly (vars : Variables) :
    ((∃ b, read vars = .ok b) ↔ IsAcceptable vars) ∧
      (∀ b, read vars = .ok b → ∃ text written, Given vars "JWT_KEYS" text ∧
        WritesKeys text written ∧ List.Forall₂ Encodes written b.tokens.keys) ∧
      ∀ name, read (Function.update vars name (some "")) =
        read (Function.update vars name none) := by
  refine ⟨?_, fun b h => keys_of_read h, read_update_empty vars⟩
  rw [← exists_reads_iff]
  exact exists_congr fun b => read_eq_ok_iff

/-- Nothing but what is required is acceptable, and no switch at all is as good as an empty one. -/
theorem read_exactly_of_least :
    (∃ b, read Platform.leastVariables = .ok b) ∧ IsAcceptable Platform.leastVariables ∧
      (∃ text written, Given Platform.leastVariables "JWT_KEYS" text ∧ WritesKeys text written ∧
        List.Forall₂ Encodes written Platform.leastBasic.tokens.keys) ∧
      read (Function.update Platform.leastVariables "SMTP_ENABLED" (some "")) =
        read (Function.update Platform.leastVariables "SMTP_ENABLED" none) := by
  have hread := Platform.read_leastVariables
  obtain ⟨hexactly, hkeys, hempty⟩ := read_exactly Platform.leastVariables
  exact ⟨⟨_, hread⟩, hexactly.mp ⟨_, hread⟩, hkeys _ hread, hempty _⟩

end Crowdlending.Settings
