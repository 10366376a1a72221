import Mathlib.Logic.Function.Basic
import PowerLease.Startup
import PowerLease.Proofs.Duration.Roundtrip
import PowerLease.Proofs.Json.Records
import PowerLease.Proofs.Json.Roundtrip

/-!
# Settings come back from their file

Settings that are written to a file and loaded from it are the same settings (`loadSettings_render`). This
holds for all settings, so it holds for those that were read from any text.

The text of a file comes back as the value that was written, and each part of this value is the record of
its fields, all of them given. What is left is that each field is read as it was written: a duration from
its text, and a path that is not set from null.
-/

namespace PowerLease

open Json (Value)

namespace Settings

/-! ## Fields -/

theorem duration_ofDuration (d : Duration) : duration (ofDuration d) = .ok d := by
  have htext : Json.string (ofDuration d) = .ok d.render := rfl
  simp only [duration, Json.parsed, htext, bind, Except.bind, Duration.read_render]

/-- What reads every text as it is, reads a text or null as it is. -/
theorem optional_text {decode : Json.Decoder String} (h : ∀ s, decode (.text s) = .ok s)
    (o : Option String) : Json.optional decode (.optional .text o) = .ok o := by
  cases o with
  | none => rfl
  | some s =>
    show (decode (.text s)).map some = .ok (some s)
    rw [h]
    rfl

/-! ## Parts -/

theorem provider?_written (p : ProviderSettings) :
    provider? (.record
      [("kind", .text p.kind), ("tag_key", .text p.tagKey), ("aws_region", .text p.awsRegion),
        ("azure_subscription_id", .optional .text p.azureSubscription),
        ("fixture_path", .optional .text p.fixture)]) = .ok p := by
  show Except.bind (Json.record _ _ _) _ = _
  rw [Json.record_of_written (r := (p.kind, p.tagKey, p.awsRegion, p.azureSubscription, p.fixture, ()))
    ?hdistinct ?hwritten]
  case hdistinct => decide
  case hwritten =>
    exact .field rfl (.field rfl (.field rfl (.field (optional_text (fun _ => rfl) _)
      (.field (optional_text (fun _ => rfl) _) .done))))
  rfl

theorem workers?_written (w : WorkerSettings) :
    workers? (.record
      [("scrape_interval", ofDuration w.scrapeInterval), ("internal_clock", ofDuration w.internalClock),
        ("warning_window", ofDuration w.warningWindow), ("scrape_on_start", .bool w.scrapeOnStart)]) =
      .ok w := by
  show Except.bind (Json.record _ _ _) _ = _
  rw [Json.record_of_written
    (r := (w.scrapeInterval, w.internalClock, w.warningWindow, w.scrapeOnStart, ())) ?hdistinct ?hwritten]
  case hdistinct => decide
  case hwritten =>
    exact .field (duration_ofDuration _) (.field (duration_ofDuration _)
      (.field (duration_ofDuration _) (.field rfl .done)))
  rfl

/-! ## Settings as a whole -/

theorem decoder_toJson (s : Settings) : decoder s.toJson = .ok s := by
  show Except.bind (Json.record _ _ _) _ = _
  rw [toJson, Json.record_of_written (r := (s.provider, s.workers, s.database, ())) ?hdistinct ?hwritten]
  case hdistinct => decide
  case hwritten =>
    exact .field (provider?_written s.provider) (.field (workers?_written s.workers)
      (.field (optional_text (fun _ => rfl) _) .done))
  rfl

theorem isPlain_optional_text (o : Option String) : (Value.optional .text o).isPlain = true := by
  cases o <;> rfl

theorem isPlain_toJson (s : Settings) : s.toJson.isPlain = true := by
  simp [toJson, ofDuration, Value.record, Value.text, Value.isPlain, Value.arePlainMembers,
    isPlain_optional_text]

/-- Settings come back from their text. -/
theorem read_render (s : Settings) : read s.render = .ok s := by
  rw [read, Json.decodeText, render, Json.read_render s.isPlain_toJson]
  show (decoder s.toJson).bind _ = _
  rw [decoder_toJson]
  rfl

end Settings

namespace Startup

/-- **Settings that are written to their file are loaded as they were.** What other files there are does not
matter. -/
theorem loadSettings_render (s : Settings) (files : Files) (home : String) (asked : Option String) :
    loadSettings (Function.update files (settingsFile home asked) (some s.render)) home asked =
      .ok s := by
  have hread : ∀ path, readSettings path s.render = .ok s := by
    intro path
    rw [readSettings, Settings.read_render]
  cases asked with
  | none => simp [loadSettings, settingsFile, hread]
  | some path => simp [loadSettings, settingsFile, hread]

end Startup
end PowerLease
