import MessageRelay.Config.File
import MessageRelay.Proofs.Json.Reading
import MessageRelay.Proofs.Net.SocketAddress

/-!
# Settings that are written down

Settings are read from texts of many forms: members may stand in any order or be left out, and numbers, addresses and
texts may be written in several ways.  They are written in one form only, with all members.  What is written is read as
the same settings again (`ConfigFile.rewriting_keeps_settings`), so nothing that was read from any text gets lost when it
is written down.
-/

namespace MessageRelay

open Json

/-! ## Parts of settings -/

lemma AckMode.reads (m : AckMode) : Reads AckMode.reader m.json m := by
  cases m <;> exact reads_choice rfl

lemma SocketAddress.reads (a : SocketAddress) : Reads SocketAddress.reader a.json a := by
  intro rest hrest
  unfold SocketAddress.reader SocketAddress.json
  rw [bind_eq (reads_textFor _ _ rest hrest), parse?_display]
  rfl

/-! ## Records -/

lemma Timeouts.reads (t : Timeouts) : Reads Timeouts.reader t.json t :=
  reads_record (by simp) <|
    .cons rfl ((reads_nat64 t.connectMs).map rfl) <|
    .cons rfl ((reads_nat64 t.requestMs).map rfl) <|
    .done (by simp)

lemma DirectConfig.reads (c : DirectConfig) : Reads DirectConfig.reader c.json c :=
  reads_record (by simp) <|
    .cons rfl (c.listenAddress.reads.map rfl) <|
    .cons rfl ((reads_text c.peerEndpoint).map rfl) <|
    .cons rfl ((reads_nat32 c.connectAttempts).map rfl) <|
    .cons rfl ((reads_nat64 c.retryDelayMs).map rfl) <|
    .cons rfl (c.timeouts.reads.map rfl) <|
    .done (by simp)

lemma QueueConfig.reads (c : QueueConfig) : Reads QueueConfig.reader c.json c :=
  reads_record (by simp) <|
    .cons rfl ((reads_text c.brokerUri).map rfl) <|
    .cons rfl ((reads_text c.queueName).map rfl) <|
    .cons rfl (c.ackMode.reads.map rfl) <|
    .cons rfl ((reads_nat32 c.connectAttempts).map rfl) <|
    .cons rfl ((reads_nat64 c.retryDelayMs).map rfl) <|
    .cons rfl (c.timeouts.reads.map rfl) <|
    .done (by simp)

lemma NodeConfig.reads (c : NodeConfig) : Reads NodeConfig.reader c.json c :=
  reads_record (by simp) <|
    .cons rfl ((reads_nullable_object (fun _ => rfl) DirectConfig.reads c.direct).map rfl) <|
    .cons rfl ((reads_nullable_object (fun _ => rfl) QueueConfig.reads c.queue).map rfl) <|
    .done rfl

lemma ConfigFile.reads (f : ConfigFile) : Reads ConfigFile.reader f.json f :=
  reads_record (by simp) <|
    .cons rfl ((reads_nullable_text f.user).map rfl) <|
    .cons rfl ((reads_nullable_object (fun _ => rfl) DirectConfig.reads f.direct).map rfl) <|
    .cons rfl ((reads_nullable_object (fun _ => rfl) QueueConfig.reads f.queue).map rfl) <|
    .done rfl

namespace ConfigFile

/-- **Rewriting keeps settings.**  Whatever text settings were read from, they are read again from what is written for
them: those of a file, also when the file is loaded as bytes, and each part of them by itself. -/
theorem rewriting_keeps_settings :
    (∀ f : ConfigFile, ConfigFile.reader.runWhole f.json = .ok f ∧
      ∀ path, ConfigFile.load path (Text.encode f.json) = .ok f) ∧
    (∀ c : NodeConfig, NodeConfig.reader.runWhole c.json = .ok c) ∧
    (∀ c : DirectConfig, DirectConfig.reader.runWhole c.json = .ok c) ∧
    (∀ c : QueueConfig, QueueConfig.reader.runWhole c.json = .ok c) ∧
    ∀ t : Timeouts, Timeouts.reader.runWhole t.json = .ok t := by
  refine ⟨fun f => ⟨f.reads.runWhole, fun path => ?_⟩, fun c => c.reads.runWhole, fun c => c.reads.runWhole,
    fun c => c.reads.runWhole, fun t => t.reads.runWhole⟩
  rw [ConfigFile.load, Text.decode?_encode]
  simp only [f.reads.runWhole]

/-- Members in another order than their own, an escape that is not needed, zeros in front of numbers, and an address that
is written with its other run of zero groups left out. -/
example : (ConfigFile.reader.runWhole
    "\x7b \"queue\": null, \"direct\": \x7b\"listen_addr\": \"[1::2:0:0:0:3%07]:080\"\x7d, \"user\": \"\\u0061\" \x7d").toOption =
    some { user := some "a", direct := some { listenAddress := .v6 ⟨#v[1, 0, 0, 2, 0, 0, 0, 3]⟩ 7 80 } } := by
  decide +kernel

end ConfigFile

end MessageRelay
