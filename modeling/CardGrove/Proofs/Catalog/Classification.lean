import CardGrove.Proofs.Catalog.Writable
import CardGrove.Proofs.Json.Limits
import CardGrove.Proofs.Service.Requests

/-! Which catalog files fail in a way that is foreseen. A file of bytes that are no text is not
among them, nor is a text beyond the limits of reading; every other file gives a catalog, or a
failure that is explained to users. -/
namespace CardGrove

theorem CatalogError.kind_of_failure? {e : CatalogError} {f : Failure} (h : e.failure? = some f) :
    f.kind = "configuration_error" ∧ f.status = 503 := by
  cases e with
  | missing | malformed | invalid =>
    obtain rfl := Option.some.inj h
    exact ⟨rfl, rfl⟩
  | undecodable | integerTooLong | tooDeep => cases h

namespace Catalog

def IsClassified (r : Except CatalogError Catalog) : Prop :=
  (∃ catalog, r = .ok catalog) ∨ ∃ e f, r = .error e ∧ e.failure? = some f

/-- The bytes are a text, which is read or is not JSON: its reading meets no limit. -/
def IsWithinLimits (depth : Nat) (bytes : ByteArray) : Prop :=
  ∃ text, Text.ofUtf8? bytes = some text ∧ Json.parseTo depth text ≠ .error .tooDeep ∧
    Json.parseTo depth text ≠ .error .integerTooLong

theorem isClassified_error_iff {e : CatalogError} :
    IsClassified (.error e) ↔ e.failure?.isSome := by
  rw [Option.isSome_iff_exists]
  constructor
  · rintro (⟨catalog, h⟩ | ⟨e, f, h, hf⟩)
    · cases h
    · obtain rfl := Except.error.inj h
      exact ⟨f, hf⟩
  · exact fun ⟨f, hf⟩ => .inr ⟨e, f, rfl, hf⟩

theorem isClassified_ofDocument (v : Json) : IsClassified (ofDocument v) := by
  rw [ofDocument]
  cases readDefinitions v with
  | ok cards => exact .inl ⟨_, rfl⟩
  | bad issues => exact isClassified_error_iff.2 rfl

theorem isClassified_ofText_iff (depth : Nat) (text : Text) :
    IsClassified (ofText depth text) ↔
      Json.parseTo depth text ≠ .error .tooDeep ∧
        Json.parseTo depth text ≠ .error .integerTooLong := by
  rw [ofText]
  cases Json.parseTo depth text with
  | ok v => exact iff_of_true (isClassified_ofDocument v) (by simp)
  | error e =>
    cases e with
    | malformed => exact iff_of_true (isClassified_error_iff.2 rfl) (by simp)
    | integerTooLong =>
      exact iff_of_false (fun h => Bool.false_ne_true (isClassified_error_iff.1 h))
        fun h => h.2 rfl
    | tooDeep =>
      exact iff_of_false (fun h => Bool.false_ne_true (isClassified_error_iff.1 h))
        fun h => h.1 rfl

theorem isClassified_loadTo_iff (depth : Nat) (bytes : ByteArray) :
    IsClassified (loadTo depth (.file bytes)) ↔ IsWithinLimits depth bytes := by
  rw [loadTo, ofBytes, IsWithinLimits]
  cases Text.ofUtf8? bytes with
  | none =>
    refine iff_of_false (fun h => Bool.false_ne_true (isClassified_error_iff.1 h)) ?_
    rintro ⟨text, h, -⟩
    cases h
  | some text =>
    refine (isClassified_ofText_iff depth text).trans ⟨fun h => ⟨text, rfl, h⟩, ?_⟩
    rintro ⟨text', h, hlimits⟩
    obtain rfl := Option.some.inj h
    exact hlimits

theorem isWithinLimits_of_text {depth : Nat} {bytes : ByteArray} {text : Text}
    (htext : Text.ofUtf8? bytes = some text) (hdepth : Json.nesting text ≤ depth)
    (hrow : ¬ Json.HasLongRow text) : IsWithinLimits depth bytes :=
  ⟨text, htext, Json.parseTo_ne_tooDeep hdepth, Json.parseTo_ne_integerTooLong depth hrow⟩

theorem ofUtf8?_toUTF8 (s : String) : Text.ofUtf8? s.toUTF8 = some (s : Text) := by
  have hvalid : s.toUTF8.IsValidUTF8 := s.isValidUTF8
  rw [Text.ofUtf8?, String.fromUTF8?, dif_pos hvalid]
  rfl

theorem loadTo_toUTF8 (depth : Nat) (s : String) :
    loadTo depth (.file s.toUTF8) = ofText depth s := by
  rw [loadTo, ofBytes, ofUtf8?_toUTF8]

end Catalog

namespace Service

open Catalog (IsClassified IsWithinLimits)

def IsUnavailable (r : Except ServiceError Response) : Prop :=
  ∃ f : Failure, f.kind = "configuration_error" ∧ f.status = 503 ∧
    r = .ok (detail 503 (failureJson f))

def IsWritable (framework : Framework) (scores : List (PlayerScore Text)) : Prop :=
  Game.HasShortTotals scores ∧ framework.writes (scoreJson scores)

variable (framework : Framework) (source : CatalogSource)

theorem ready_iff : (∃ status body, ready framework source = .ok (.document status body) ∧
      (status = 200 ∨ status = 503)) ↔
      IsClassified (Catalog.loadTo framework.readyDepth source) := by
  rw [ready]
  cases Catalog.loadTo framework.readyDepth source with
  | ok catalog => exact iff_of_true ⟨_, _, rfl, .inl rfl⟩ (.inl ⟨catalog, rfl⟩)
  | error e =>
    rw [Catalog.isClassified_error_iff]
    dsimp only
    split
    · next h => exact iff_of_true ⟨_, _, rfl, .inr rfl⟩ h
    · next h =>
      refine iff_of_false ?_ h
      rintro ⟨status, body, hready, -⟩
      cases hready

section Document

variable {framework source} {catalog : Catalog} {v : Json} {players : List (Player Text)}

/-- Players whose coordinates are doubles fail by their totals only, and a catalog that is loaded
holds no number that a reason could not spell. -/
theorem score_document (hload : Catalog.loadTo framework.scoreDepth source = .ok catalog)
    (hplayers : readBody (.document v) = .ok players) : score framework source (.document v) =
      if Game.HasShortTotals (Game.results catalog players) then
        report framework (Game.results catalog players)
      else .error (.score .integerTooLong) := by
  have hdouble : ∀ p ∈ players, p.AllDouble := gives_readBody _ _ hplayers
  have hcatalog : catalog.IsWritable := Catalog.isWritable_of_loadTo hload
  rw [score.eq_def]
  dsimp only
  rw [hload]
  dsimp only
  rw [hplayers]
  dsimp only
  by_cases hshort : Game.HasShortTotals (Game.results catalog players)
  · rw [Game.score_of_hasShortTotals hcatalog hdouble hshort, if_pos hshort]
  · rw [Game.score_of_not_hasShortTotals hcatalog hdouble hshort, if_neg hshort]

theorem report_eq_ok_iff {scores : List (PlayerScore Text)} :
    report framework scores = .ok (.document 200 (scoreJson scores)) ↔
      framework.writes (scoreJson scores) := by
  rw [report]
  split
  · next h => exact iff_of_true rfl h
  · next h => exact iff_of_false (fun heq => nomatch heq) h

theorem score_document_eq_ok_iff (hload : Catalog.loadTo framework.scoreDepth source = .ok catalog)
    (hplayers : readBody (.document v) = .ok players) :
    score framework source (.document v) =
        .ok (.document 200 (scoreJson (Game.results catalog players))) ↔
      IsWritable framework (Game.results catalog players) := by
  rw [score_document hload hplayers]
  split
  · next h => exact report_eq_ok_iff.trans (and_iff_right h).symm
  · next h => exact iff_of_false (fun heq => nomatch heq) fun hwritable => h hwritable.1

end Document

theorem score_iff {v : Json} {players : List (Player Text)}
    (hplayers : readBody (.document v) = .ok players) :
    (IsUnavailable (score framework source (.document v)) ∨
      ∃ catalog, Catalog.loadTo framework.scoreDepth source = .ok catalog ∧
        (score framework source (.document v) =
          .ok (.document 200 (scoreJson (Game.results catalog players))) ↔
          IsWritable framework (Game.results catalog players))) ↔
      IsClassified (Catalog.loadTo framework.scoreDepth source) := by
  cases hload : Catalog.loadTo framework.scoreDepth source with
  | ok catalog =>
    exact iff_of_true (.inr ⟨catalog, rfl, score_document_eq_ok_iff hload hplayers⟩)
      (.inl ⟨catalog, rfl⟩)
  | error e =>
    rw [Catalog.isClassified_error_iff, score.eq_def]
    dsimp only
    rw [hload]
    dsimp only
    cases hf : e.failure? with
    | none =>
      refine iff_of_false ?_ Bool.false_ne_true
      rintro (⟨f, -, -, h⟩ | ⟨catalog, h, -⟩)
      · cases h
      · cases h
    | some f =>
      obtain ⟨hkind, hstatus⟩ := CatalogError.kind_of_failure? hf
      exact iff_of_true (.inl ⟨f, hkind, hstatus, by rw [← hstatus]⟩) rfl

/-- Whatever the bytes of a catalog file are, its loading ends with a catalog or an explained
failure, the service tells whether it is ready, and players are scored unless the service is
unavailable, exactly if the bytes are a text and reading it meets no limit. In a text whose brackets
are not nested too deeply, and without a long row of digits, no limit is met. -/
theorem answers_file (bytes : ByteArray) :
    (∀ depth, IsClassified (Catalog.loadTo depth (.file bytes)) ↔ IsWithinLimits depth bytes) ∧
    ((∃ status body, ready framework (.file bytes) = .ok (.document status body) ∧
      (status = 200 ∨ status = 503)) ↔ IsWithinLimits framework.readyDepth bytes) ∧
    (∀ v players, readBody (.document v) = .ok players →
      ((IsUnavailable (score framework (.file bytes) (.document v)) ∨
        ∃ catalog, Catalog.loadTo framework.scoreDepth (.file bytes) = .ok catalog ∧
          (score framework (.file bytes) (.document v) =
            .ok (.document 200 (scoreJson (Game.results catalog players))) ↔
            IsWritable framework (Game.results catalog players))) ↔
        IsWithinLimits framework.scoreDepth bytes)) ∧
    ∀ depth text, Text.ofUtf8? bytes = some text → Json.nesting text ≤ depth →
      ¬ Json.HasLongRow text → IsWithinLimits depth bytes := by
  refine ⟨fun depth => Catalog.isClassified_loadTo_iff depth bytes, ?_,
    fun v players hplayers => ?_, fun depth text => Catalog.isWithinLimits_of_text⟩
  · exact (ready_iff framework _).trans (Catalog.isClassified_loadTo_iff _ bytes)
  · exact (score_iff framework _ hplayers).trans (Catalog.isClassified_loadTo_iff _ bytes)

/-- A framework that writes every document whose texts can be encoded. -/
def plainFramework : Framework := ⟨8, 8, 8, Json.isEncodable⟩

def fernText : String :=
  "\x7b\"cards\":[\x7b\"id\":\"Fern\",\"score\":\x7b\"type\":\"fixed\",\"amount\":3\x7d\x7d]\x7d"

def fernSource : CatalogSource := .file fernText.toUTF8

def ferns : Catalog := ⟨[{ id := "Fern", score := some { payout := .fixed 3 } }], []⟩

theorem load_ferns : Catalog.loadTo plainFramework.scoreDepth fernSource = .ok ferns := by
  rw [fernSource, Catalog.loadTo_toUTF8]
  decide +kernel

def fernJson : Json :=
  .obj [("players", .arr [.obj [("name", .str "first"), ("cards", .arr [.obj
    [("card_id", .str "Fern:Oak"), ("x1", .float 0.0), ("y1", .float 0.0), ("x2", .float 0.1),
      ("y2", .float 0.15)]])]])]

def fernPlayer : Player Text :=
  ⟨"first", [⟨.ofCorners (.written 0.0) (.written 0.0) (.written 0.1) (.written 0.15),
    some "Fern:Oak"⟩]⟩

theorem answers_file_fern :
    IsClassified (Catalog.loadTo 8 fernSource) ∧
    (∃ status body, ready plainFramework fernSource = .ok (.document status body) ∧
      (status = 200 ∨ status = 503)) ∧
    readBody (.document fernJson) = .ok [fernPlayer] ∧
    (Game.results ferns [fernPlayer]).map (·.total) = [3] ∧
    score plainFramework fernSource (.document fernJson) =
      .ok (.document 200 (scoreJson (Game.results ferns [fernPlayer]))) := by
  have hwithin : IsWithinLimits 8 fernText.toUTF8 :=
    (answers_file plainFramework _).2.2.2 8 fernText (Catalog.ofUtf8?_toUTF8 _) (by decide +kernel)
      (Json.not_hasLongRow_of_length (by decide +kernel))
  have hplayers : readBody (.document fernJson) = .ok [fernPlayer] := rfl
  have hwritable : IsWritable plainFramework (Game.results ferns [fernPlayer]) := by
    constructor <;> decide +kernel
  have havailable : ¬IsUnavailable (score plainFramework fernSource (.document fernJson)) := by
    rintro ⟨f, -, -, h⟩
    rw [score_document load_ferns hplayers, if_pos hwritable.1, report_eq_ok_iff.2 hwritable.2] at h
    cases h
  obtain ⟨hclassified, hready, hscore, -⟩ := answers_file plainFramework fernText.toUTF8
  obtain ⟨catalog, hcatalog, hanswer⟩ := ((hscore _ _ hplayers).2 hwithin).resolve_left havailable
  obtain rfl := Except.ok.inj (load_ferns.symm.trans hcatalog)
  exact ⟨(hclassified 8).2 hwithin, hready.2 hwithin, hplayers, by decide +kernel,
    hanswer.2 hwritable⟩

def strayBytes : ByteArray := ⟨#[0xff]⟩

theorem answers_file_not_text :
    (∀ depth, ¬ IsClassified (Catalog.loadTo depth (.file strayBytes))) ∧
    ∀ framework, ready framework (.file strayBytes) = .error (.catalog .undecodable) ∧
      score framework (.file strayBytes) (.document fernJson) = .error (.catalog .undecodable) := by
  have hbytes : Text.ofUtf8? strayBytes = none := by decide +kernel
  have hload (depth : Nat) : Catalog.loadTo depth (.file strayBytes) = .error .undecodable := by
    rw [Catalog.loadTo, Catalog.ofBytes, hbytes]
  refine ⟨fun depth => ?_, fun framework => ⟨?_, ?_⟩⟩
  · rw [hload, Catalog.isClassified_error_iff]
    exact Bool.false_ne_true
  · rw [ready, hload]
    rfl
  · rw [score.eq_def]
    dsimp only
    rw [hload]
    rfl

end Service
end CardGrove
