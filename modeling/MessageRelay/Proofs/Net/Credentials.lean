import MessageRelay.Node.Startup
import MessageRelay.Proofs.Config.Validation
import MessageRelay.Proofs.Text.Cutting

/-!
# Credentials stay hidden

The credentials in the URI of a broker are what stands between the first `://` and the last `@` behind it.  They may
hold both of these marks, and still are replaced as a whole, since neither the scheme nor the host holds the mark that
is looked for next to it (`redactChars_credentials`).  What is shown of a broker is its URI without credentials, so nothing
that a relay says when it cannot be connected depends on them, unless the network itself does
(`credentials_are_hidden`).
-/

namespace MessageRelay

namespace BrokerUri

/-! ## What is shown of a URI -/

lemma unbordered_schemeMark : Text.Unbordered schemeMark := by
  unfold Text.Unbordered
  decide

/-- A URI is cut into its scheme and its rest where its scheme ends. -/
lemma cutFirst?_schemeMark {uri scheme rest : List Char} : Text.cutFirst? schemeMark uri = some (scheme, rest) ↔
    uri = scheme ++ (schemeMark ++ rest) ∧ ¬ schemeMark <:+: scheme :=
  Text.cutFirst?_eq_some unbordered_schemeMark (by decide)

/-- Whatever the credentials hold, they are replaced from the first to the last character. -/
lemma redactChars_credentials {scheme host : List Char} (hscheme : ¬ schemeMark <:+: scheme) (hhost : '@' ∉ host)
    (credentials : List Char) : redactChars (scheme ++ (schemeMark ++ (credentials ++ '@' :: host))) =
      scheme ++ (schemeMark ++ ("***".toList ++ '@' :: host)) := by
  have hcut : Text.cutFirst? schemeMark (scheme ++ (schemeMark ++ (credentials ++ '@' :: host))) =
      some (scheme, credentials ++ '@' :: host) := cutFirst?_schemeMark.2 ⟨rfl, hscheme⟩
  have hlast : Text.cutLast? '@' (credentials ++ '@' :: host) = some (credentials, host) :=
    Text.cutLast?_eq_some.2 ⟨rfl, hhost⟩
  simp only [redactChars, hcut, hlast]
  simp

lemma redactChars_idempotent (uri : List Char) : redactChars (redactChars uri) = redactChars uri := by
  cases hcut : Text.cutFirst? schemeMark uri with
  | none =>
    have huri : redactChars uri = uri := by simp only [redactChars, hcut]
    rw [huri, huri]
  | some parts =>
    obtain ⟨scheme, rest⟩ := parts
    cases hlast : Text.cutLast? '@' rest with
    | none =>
      have huri : redactChars uri = uri := by simp only [redactChars, hcut, hlast]
      rw [huri, huri]
    | some parts =>
      -- the URI that is shown is cut at the same two places
      obtain ⟨credentials, host⟩ := parts
      obtain ⟨rfl, hscheme⟩ := cutFirst?_schemeMark.1 hcut
      obtain ⟨rfl, hhost⟩ := Text.cutLast?_eq_some.1 hlast
      rw [redactChars_credentials hscheme hhost, redactChars_credentials hscheme hhost]

lemma redact_idempotent (uri : String) : redact (redact uri) = redact uri := by
  unfold redact
  rw [String.toList_ofList, redactChars_idempotent]

/-- The URI `scheme://credentials@host`. -/
def withCredentials (scheme credentials host : String) : String :=
  scheme ++ "://" ++ credentials ++ "@" ++ host

/-- What is shown of a URI has other credentials. -/
lemma redact_withCredentials {scheme host : String} (hscheme : ¬ "://".toList <:+: scheme.toList)
    (hhost : '@' ∉ host.toList) (credentials : String) :
    redact (withCredentials scheme credentials host) = withCredentials scheme "***" host := by
  have htext : ∀ c : String, (withCredentials scheme c host).toList =
      scheme.toList ++ (schemeMark ++ (c.toList ++ '@' :: host.toList)) := by
    intro c
    simp [withCredentials, schemeMark]
  rw [redact, htext, redactChars_credentials hscheme hhost, ← htext, String.ofList_toList]

/-! ## Brokers on the network -/

/-- The schemes of brokers on the network. -/
def OnNetwork (scheme : String) : Prop :=
  scheme = "amqp" ∨ scheme = "amqps"

lemma OnNetwork.not_infix {scheme : String} (h : OnNetwork scheme) : ¬ "://".toList <:+: scheme.toList := by
  rcases h with rfl | rfl <;> decide

lemma OnNetwork.kind? {scheme : String} (h : OnNetwork scheme) (credentials host : String) :
    kind? (withCredentials scheme credentials host) = some .amqp := by
  have hstart : Text.startsWith (withCredentials scheme credentials host) (scheme ++ "://") = true := by
    unfold withCredentials
    rw [String.append_assoc, String.append_assoc]
    exact Text.startsWith_append (by rw [Text.startsWith_iff]) _
  have hmemory : Text.startsWith (withCredentials scheme credentials host) "memory://" = false := by
    rw [← Bool.not_eq_true]
    intro hmemory
    have hboth := Text.startsWith_or_startsWith hmemory hstart
    rcases h with rfl | rfl <;> revert hboth <;> decide
  have hamqp : (Text.startsWith (withCredentials scheme credentials host) "amqp://" ||
      Text.startsWith (withCredentials scheme credentials host) "amqps://") = true := by
    rw [Bool.or_eq_true]
    rcases h with rfl | rfl
    · exact .inl hstart
    · exact .inr hstart
  rw [BrokerUri.kind?, if_neg (by simp [hmemory]), if_pos hamqp]

lemma OnNetwork.isAccepted {scheme : String} (h : OnNetwork scheme) (credentials host : String) :
    isAccepted (withCredentials scheme credentials host) = true := by
  rw [← kind?_isSome, h.kind?]
  rfl

/-- Brokers on the network are called alike if their URIs are the same but for the credentials. -/
lemma OnNetwork.choose {scheme host : String} (h : OnNetwork scheme) (hhost : '@' ∉ host.toList)
    (credentials : String) :
    choose (withCredentials scheme credentials host) = .ok (.amqp, withCredentials scheme "***" host) := by
  simp only [BrokerUri.choose, h.kind?, describe, redact_withCredentials h.not_infix hhost]

end BrokerUri

/-! ## Connecting -/

/-- The checks of settings do not look at the URI, if it names a broker. -/
lemma QueueConfig.validate_withUri {config : QueueConfig} {uri uri' : String} (h : BrokerUri.isAccepted uri = true)
    (h' : BrokerUri.isAccepted uri' = true) :
    ({ config with brokerUri := uri } : QueueConfig).validate =
      ({ config with brokerUri := uri' } : QueueConfig).validate := by
  simp only [validate, h, h', Bool.not_true, Bool.false_eq_true, if_false]

namespace Startup

variable {outside outside' : Outside} {uri uri' : String}

/-- Connects a relay with the given settings to the broker on the network at a URI. -/
def connect (outside : Outside) (uri : String) (config : QueueConfig) : Except RelayError Unit := do
  config.validate
  reach outside { config with brokerUri := uri } config.connectAttempts.toNat 0 ""

/-- A queue relay comes up when it is connected to the broker that its settings name, and joins its queue there. -/
lemma remoteQueue_eq (outside : Outside) (config : QueueConfig) : remoteQueue outside config =
    connect outside config.brokerUri config >>= fun _ =>
      join outside { session := 0, config } config.queueName := by
  unfold remoteQueue connect
  cases config.validate <;> rfl

/-- Tries that come to the same come to the same message, if what is shown of the URIs is the same. -/
lemma attempt_congr {config : QueueConfig} (hshown : BrokerUri.redact uri = BrokerUri.redact uri') {tried : Nat}
    (h : outside.broker uri tried = outside'.broker uri' tried) :
    attempt outside { config with brokerUri := uri } tried =
      attempt outside' { config with brokerUri := uri' } tried := by
  simp only [attempt, hshown, h]

/-- The same holds of all tries together. -/
lemma reach_congr (config : QueueConfig) (hshown : BrokerUri.redact uri = BrokerUri.redact uri') (left tried : Nat)
    (last : String) (h : ∀ n, tried ≤ n → n < tried + left → outside.broker uri n = outside'.broker uri' n) :
    reach outside { config with brokerUri := uri } left tried last =
      reach outside' { config with brokerUri := uri' } left tried last := by
  induction left generalizing tried last with
  | zero => simp only [reach, hshown]
  | succ left ih =>
    have hlater : ∀ n, tried + 1 ≤ n → n < tried + 1 + left → outside.broker uri n = outside'.broker uri' n :=
      fun n hn hn' => h n (by omega) (by omega)
    rw [reach, reach, attempt_congr hshown (h tried le_rfl (by omega))]
    split
    · rfl
    · rfl
    · exact ih _ _ hlater

/-- A relay that sees the same of two URIs and is told the same by the network cannot tell the brokers apart. -/
lemma connect_congr {config config' : QueueConfig} (hchecks : config.validate = config'.validate)
    (hsettings : { config with brokerUri := uri' } = { config' with brokerUri := uri' })
    (hshown : BrokerUri.redact uri = BrokerUri.redact uri')
    (h : ∀ n < config.connectAttempts.toNat, outside.broker uri n = outside'.broker uri' n) :
    connect outside uri config = connect outside' uri' config' := by
  have hattempts : config.connectAttempts = config'.connectAttempts := by
    simp only [QueueConfig.mk.injEq] at hsettings
    exact hsettings.2.2.2.1
  have hreach := reach_congr config hshown config.connectAttempts.toNat 0 "" fun n _ hn => h n (by simpa using hn)
  unfold connect
  rw [hchecks, hreach, hsettings, hattempts]

end Startup

/-- **Credentials stay hidden.**  What is shown of a URI does not depend on its credentials, whatever they hold, and
shows nothing more when it is taken for a URI itself.  Two brokers on the network whose URIs are the same but for the
credentials are called alike, and if the network answers both alike, try by try, then a relay is told the same when it
is connected to the one and when it is to the other: whether its settings name these brokers or another one. -/
theorem credentials_are_hidden :
    (∀ scheme host : String, ¬ "://".toList <:+: scheme.toList → '@' ∉ host.toList → ∀ c c',
      BrokerUri.redact (BrokerUri.withCredentials scheme c host) =
        BrokerUri.redact (BrokerUri.withCredentials scheme c' host)) ∧
    (∀ uri, BrokerUri.redact (BrokerUri.redact uri) = BrokerUri.redact uri) ∧
    ∀ scheme host : String, BrokerUri.OnNetwork scheme → '@' ∉ host.toList → ∀ c c',
      let uri := BrokerUri.withCredentials scheme c host
      let uri' := BrokerUri.withCredentials scheme c' host
      (∃ name, BrokerUri.choose uri = .ok (.amqp, name) ∧ BrokerUri.choose uri' = .ok (.amqp, name)) ∧
      ∀ (outside outside' : Startup.Outside) (config : QueueConfig),
        (∀ n < config.connectAttempts.toNat, outside.broker uri n = outside'.broker uri' n) →
        Startup.connect outside uri config = Startup.connect outside' uri' config ∧
        Startup.connect outside uri { config with brokerUri := uri } =
          Startup.connect outside' uri' { config with brokerUri := uri' } := by
  refine ⟨fun scheme host hscheme hhost c c' => ?_, BrokerUri.redact_idempotent, ?_⟩
  · rw [BrokerUri.redact_withCredentials hscheme hhost, BrokerUri.redact_withCredentials hscheme hhost]
  · intro scheme host hscheme hhost c c' uri uri'
    have hshown : BrokerUri.redact uri = BrokerUri.redact uri' := by
      rw [BrokerUri.redact_withCredentials hscheme.not_infix hhost,
        BrokerUri.redact_withCredentials hscheme.not_infix hhost]
    refine ⟨⟨_, hscheme.choose hhost c, hscheme.choose hhost c'⟩, fun outside outside' config h => ?_⟩
    have hchecks : ({ config with brokerUri := uri } : QueueConfig).validate =
        ({ config with brokerUri := uri' } : QueueConfig).validate :=
      QueueConfig.validate_withUri (hscheme.isAccepted c host) (hscheme.isAccepted c' host)
    exact ⟨Startup.connect_congr rfl rfl hshown h, Startup.connect_congr hchecks rfl hshown h⟩

/-- Credentials that hold an `@`, and others, where there is no network.  The settings of the relay are the usual ones. -/
theorem credentials_are_hidden_offline :
    let uri := BrokerUri.withCredentials "amqp" "ann:secret" "rabbit:5672/%2f"
    let uri' := BrokerUri.withCredentials "amqp" "bob:p@ss" "rabbit:5672/%2f"
    let config : QueueConfig := {}
    BrokerUri.redact uri = BrokerUri.redact uri' ∧
      (∃ name, BrokerUri.choose uri = .ok (.amqp, name) ∧ BrokerUri.choose uri' = .ok (.amqp, name)) ∧
      (∀ n < config.connectAttempts.toNat, Startup.offline.broker uri n = Startup.offline.broker uri' n) ∧
      Startup.connect Startup.offline uri config = Startup.connect Startup.offline uri' config ∧
      Startup.connect Startup.offline uri { config with brokerUri := uri } =
        Startup.connect Startup.offline uri' { config with brokerUri := uri' } := by
  intro uri uri' config
  have hhost : '@' ∉ "rabbit:5672/%2f".toList := by decide
  obtain ⟨hredact, -, hnetwork⟩ := credentials_are_hidden
  obtain ⟨hname, hconnect⟩ := hnetwork "amqp" "rabbit:5672/%2f" (.inl rfl) hhost "ann:secret" "bob:p@ss"
  have hanswer : ∀ n < config.connectAttempts.toNat,
      Startup.offline.broker uri n = Startup.offline.broker uri' n := by
    have hfirst : ∀ u n, Startup.offline.broker u n = Startup.offline.broker u 0 := fun _ _ => rfl
    intro n hn
    rw [hfirst uri, hfirst uri']
    decide +kernel
  refine ⟨hredact _ _ (by decide) hhost _ _, hname, hanswer, ?_⟩
  -- nothing of the network is to be computed here
  generalize Startup.offline = outside at hanswer ⊢
  exact hconnect outside outside config hanswer

end MessageRelay
