/-
BreakCheck/Proofs/Message.lean

Messages come back from their JSON text.

A message leaves out every field that is empty, and so does each of its exemptions, down
to one that is written as `{}`.  Since a field that is left out changes nothing in a blank
value, no case has to be told apart (`Fills.append`): `reads_message` goes along the
fields once, in the order in which they are written.

A configuration holds no ID twice, so it comes back by way of its message as it was.  A
message that repeats IDs is folded by the configuration that it means; `Message.folded`
says into which message.
-/
import BreakCheck.Proofs.Conversions
import BreakCheck.Proofs.Json.Reads
import BreakCheck.Proofs.Ledger.Folded

namespace BreakCheck

open Json.Reader (Fills Reads)

/-! ### Messages as data -/

theorem Message.bearsJson_toData (message : Message) : message.toData.bearsJson = true := by
  rw [Message.toData, Data.bearsJson_record]
  intro field held
  simp only [List.mem_append] at held
  rcases held with ((((held | held) | held) | held) | held) | held
  · exact Data.bearsJson_of_mem_textsField held
  · exact Data.bearsJson_of_mem_textsField held
  · exact Data.bearsJson_of_mem_textsField held
  · apply Data.bearsJson_of_mem_listField _ held
    intro item known
    obtain ⟨entry, -, rfl⟩ := List.mem_map.1 known
    exact entry.bearsJson_toData
  · exact Data.bearsJson_of_mem_flagField held
  · exact Data.bearsJson_of_mem_textField held

namespace Json.Reader

/-- **An exemption** is read from its record, whatever it is called in complaints. -/
theorem reads_exemption (name : String) (entry : Exemption) :
    Reads 2 (Exemption.decoder name) entry.toData (pure entry) := by
  apply Fills.reads name
  exact Fills.append
    (Fills.text (fun id (entry : Exemption) => { entry with id }) rfl entry.id rfl)
    (Fills.texts (fun paths (entry : Exemption) => { entry with paths }) rfl entry.paths rfl
      (by decide)) (by decide)

/-- **A message is read field by field**, whichever of them are left out. -/
theorem reads_message (message : Message) :
    Reads 4 Message.decoder message.toData (pure message) := by
  apply Fills.reads "WireConfig"
  -- the fields in the order in which they are written
  refine Fills.append (Fills.append (Fills.append (Fills.append (Fills.append
    (Fills.texts (fun included (message : Message) => { message with included }) rfl
      message.included rfl (by decide))
    (Fills.texts (fun excluded (message : Message) => { message with excluded }) rfl
      message.excluded rfl (by decide)) ?_)
    (Fills.texts (fun ignored (message : Message) => { message with ignored }) rfl
      message.ignored rfl (by decide)) ?_)
    (Fills.list (fun exemptions (message : Message) => { message with exemptions }) rfl
      (reads_exemption "WireIdPaths") message.exemptions rfl) ?_)
    (Fills.flag (fun ignoreUnstable (message : Message) => { message with ignoreUnstable }) rfl
      message.ignoreUnstable rfl) ?_)
    (Fills.text (fun version (message : Message) => { message with version }) rfl
      message.version rfl) ?_
  -- no name occurs twice
  all_goals decide

end Json.Reader

/-! ### Messages that repeat IDs -/

/-- A message with repeated IDs folded together. -/
def Message.folded (message : Message) : Message :=
  { message with exemptions := Ledger.folded message.exemptions }

namespace Config

/-- **Repeated IDs** are all that a message loses by way of a configuration. -/
theorem toMessage_ofMessage (message : Message) :
    (ofMessage message).value.toMessage = message.folded := by
  show ({ message with
    exemptions := (Exemptions.ofList message.exemptions).value.toList } : Message) = _
  rw [Exemptions.toList_ofList_eq_folded]
  rfl

/-- A folded message means the same configuration, without a notice. -/
theorem ofMessage_folded (message : Message) :
    ofMessage message.folded = pure (ofMessage message).value := by
  rw [← toMessage_ofMessage, ofMessage_toMessage]

end Config

/-! ### Messages as JSON text -/

theorem Message.exists_text (message : Message) (style : Json.Style) :
    ∃ text, Json.write style message.toData = .ok text
      ∧ Json.read Message.decoder text = pure message :=
  Json.read_write (Json.Reader.reads_message message) (by decide) message.bearsJson_toData style

/-- **The JSON text of a message loses nothing.**  Every message is read from the text that
is written for it, hence every configuration from the text of its message.  The text of the
configuration that a message means is read as the message with repeated IDs folded together,
and this one means the same configuration: going round again changes nothing more. -/
theorem Message.read_write_message (style : Json.Style) :
    (∀ message : Message, ∃ text, Json.write style message.toData = .ok text
        ∧ Json.read Message.decoder text = pure message)
      ∧ (∀ config : Config, ∃ text, Json.write style config.toMessage.toData = .ok text
        ∧ (Json.read Message.decoder text >>= fun message =>
            monadLift (Config.ofMessage message)) = pure config)
      ∧ ∀ message : Message, ∃ text,
        Json.write style (Config.ofMessage message).value.toMessage.toData = .ok text
          ∧ Json.read Message.decoder text = pure message.folded
          ∧ Config.ofMessage message.folded = pure (Config.ofMessage message).value := by
  refine ⟨fun message => message.exists_text style, ?_, ?_⟩
  · intro config
    obtain ⟨text, written, read⟩ := config.toMessage.exists_text style
    refine ⟨text, written, ?_⟩
    rw [read, pure_bind, config.ofMessage_toMessage]
    rfl
  · intro message
    obtain ⟨text, written, read⟩ := message.folded.exists_text style
    refine ⟨text, ?_, read, Config.ofMessage_folded message⟩
    rw [Config.toMessage_ofMessage, written]

end BreakCheck
