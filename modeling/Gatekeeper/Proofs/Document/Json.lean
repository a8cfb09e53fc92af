import Gatekeeper.Document.Json
import Gatekeeper.Proofs.Document.Data

/-! What JSON comes to is data. The tokens of a text are fed to a reader one by one, and at every token
all that the reader holds is data. -/
namespace Gatekeeper.Document.Json

theorem gives_number (chars : List Char) : Gives Value.IsScalar (number chars) := by
  unfold number
  refine gives_ite gives_error (gives_ite ?_ (gives_ite gives_error ?_))
  · exact gives_true.bind fun _ _ => gives_ite gives_error (gives_pure_iff.mpr trivial)
  · generalize Number.readDecimal? _ = written
    cases written with
    | none => exact gives_throw
    | some => exact gives_pure_iff.mpr trivial

theorem gives_word (chars : List Char) : Gives Value.IsScalar (word chars) := by
  unfold word
  split
  all_goals first | exact gives_ok_iff.mpr trivial | exact gives_number chars

def Frame.IsData : Frame → Prop
  | .list items => ∀ item ∈ items, item.IsData
  | .table entries key => Table.IsData entries ∧ key.IsData

def Stage.IsData : Stage → Prop
  | .value | .item => True
  | .key entries _ => Table.IsData entries
  | .colon entries name => Table.IsData entries ∧ name.IsData
  | .complete whole => whole.IsData

/-- All that was read so far is data. -/
structure Reader.IsData (reader : Reader) : Prop where
  frames : ∀ frame ∈ reader.frames, frame.IsData
  stage : reader.stage.IsData

variable {reader : Reader} {frames : List Frame}

theorem gives_descend (data : reader.IsData) :
    Gives Reader.IsData (Reader.descend frames reader) := by
  unfold Reader.descend
  split
  · exact gives_ok_iff.mpr data
  · exact gives_error

theorem gives_start (inside : ∀ frame ∈ frames, frame.IsData) (token : Token) :
    Gives Reader.IsData (Reader.start frames token) := by
  cases token with
  | openList => exact gives_descend ⟨List.forall_mem_cons.mpr ⟨by simp [Frame.IsData], inside⟩, trivial⟩
  | openTable => exact gives_descend ⟨inside, Table.isData_nil⟩
  | text letters => exact gives_ok_iff.mpr ⟨inside, Value.isData_ofLetters letters⟩
  | word chars =>
    exact (gives_word chars).bind fun value plain => gives_ok_iff.mpr ⟨inside, .scalar plain⟩
  | _ => exact gives_error

theorem isData_table {entries : Table} (data : Table.IsData entries) :
    (Value.table (Table.merge [] entries.reverse)).IsData :=
  Table.isData_table_iff.mpr (Table.isData_nil.merge fun entry mem => data entry (List.mem_reverse.mp mem))

theorem isData_list {items : List Value} (inside : ∀ item ∈ items, item.IsData) :
    (Value.list items.reverse).IsData :=
  .list fun item mem => inside item (List.mem_reverse.mp mem)

theorem gives_feed (data : reader.IsData) (token : Token) :
    Gives Reader.IsData (reader.feed token) := by
  obtain ⟨frames, stage⟩ := reader
  obtain ⟨inside, here⟩ := data
  cases stage with
  | value => exact gives_start inside token
  | item =>
    unfold Reader.feed
    dsimp only
    split
    · obtain ⟨first, others⟩ := List.forall_mem_cons.mp inside
      exact gives_ok_iff.mpr ⟨others, isData_list first⟩
    · exact gives_start inside token
  | key entries first =>
    unfold Reader.feed
    dsimp only
    split
    · exact gives_ok_iff.mpr ⟨inside, here, Value.isData_ofLetters _⟩
    · exact gives_ok_iff.mpr ⟨inside, isData_table here⟩
    · exact gives_error
  | colon entries key =>
    cases token with
    | colon => exact gives_ok_iff.mpr ⟨List.forall_mem_cons.mpr ⟨here, inside⟩, trivial⟩
    | _ => exact gives_error
  | complete value =>
    unfold Reader.feed
    dsimp only
    split
    next items frames =>
      obtain ⟨first, others⟩ := List.forall_mem_cons.mp inside
      have listed : Frame.IsData (.list (value :: items)) := List.forall_mem_cons.mpr ⟨here, first⟩
      exact gives_ok_iff.mpr ⟨List.forall_mem_cons.mpr ⟨listed, others⟩, trivial⟩
    next items frames =>
      obtain ⟨first, others⟩ := List.forall_mem_cons.mp inside
      exact gives_ok_iff.mpr ⟨others, isData_list (List.forall_mem_cons.mpr ⟨here, first⟩)⟩
    next entries key frames =>
      obtain ⟨⟨before, keyData⟩, others⟩ := List.forall_mem_cons.mp inside
      exact gives_ok_iff.mpr ⟨others, before.cons keyData here⟩
    next entries key frames =>
      obtain ⟨⟨before, keyData⟩, others⟩ := List.forall_mem_cons.mp inside
      exact gives_ok_iff.mpr ⟨others, isData_table (before.cons keyData here)⟩
    next => exact gives_error

theorem isData_start : Reader.IsData {} :=
  ⟨by simp, trivial⟩

theorem gives_finish_between (data : reader.IsData) :
    Gives Value.IsData (Reading.finish ⟨.between, reader⟩) := by
  obtain ⟨frames, stage⟩ := reader
  cases frames <;> cases stage <;> first | exact gives_throw | exact gives_pure_iff.mpr data.stage

theorem gives_finish {reading : Reading} (data : reading.reader.IsData) :
    Gives Value.IsData reading.finish := by
  obtain ⟨mode, reader⟩ := reading
  cases mode with
  | between => exact gives_finish_between data
  | word chars => exact (gives_feed data _).bind fun _ => gives_finish_between
  | _ => exact gives_error

theorem gives_read (text : String) : Gives Value.IsData (read text) := by
  have fed : ∀ char ∈ text.toList, ∀ reading : Reading, reading.reader.IsData →
      Gives (fun reading : Reading => reading.reader.IsData) (reading.feed char) := by
    intro char _ reading data
    refine gives_true.bind fun (mode, found) _ => ?_
    refine (gives_foldlM (fun token _ reader data => gives_feed data token) data).bind ?_
    exact fun reader data => gives_ok_iff.mpr data
  exact (gives_foldlM fed isData_start).bind fun reading data => gives_finish data

end Gatekeeper.Document.Json
