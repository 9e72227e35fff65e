import ChangeSieve.Proofs.TextParts
import ChangeSieve.Service.Decode
import ChangeSieve.Service.Source

/-!
Tables of streams that are named by a text. A full stream name has to be of one form to hold a table,
and then it holds one; any other text is looked up.
-/
namespace ChangeSieve

namespace StreamArn
open Text

/-- A full name `arn:p:dynamodb:r:a:table/name` holds a table, with `/` and more after it or not. -/
inductive HoldsTable : String → String → Prop where
  | table {partition region account name rest : String} (hpartition : ':' ∉ partition.toList)
      (hregion : ':' ∉ region.toList) (haccount : ':' ∉ account.toList) (hname : name ≠ "")
      (hslash : '/' ∉ name.toList) (hrest : rest = "" ∨ ∃ tail, rest = "/" ++ tail) :
      HoldsTable ("arn:" ++ partition ++ ":dynamodb:" ++ region ++ ":" ++ account ++ ":table/" ++
        name ++ rest) name

theorem tableName?_eq_some_iff {arn name : List Char} :
    tableName? arn = some name ↔
      ∃ partition region account rest, arn = "arn".toList ++ ':' :: (partition ++ ':' ::
          ("dynamodb".toList ++ ':' :: (region ++ ':' :: (account ++ ':' ::
            ("table".toList ++ '/' :: rest))))) ∧
        ':' ∉ partition ∧ ':' ∉ region ∧ ':' ∉ account ∧ name ≠ [] ∧
        rest.takeWhile (· ≠ '/') = name := by
  simp only [tableName?, Option.bind_eq_bind, Option.bind_eq_some_iff, Prod.exists,
    splitOnce?_eq_some_iff]
  constructor
  · rintro ⟨scheme, rest₁, ⟨rfl, -⟩, partition, rest₂, ⟨rfl, hpartition⟩, service, rest₃, ⟨rfl, -⟩,
      region, rest₄, ⟨rfl, hregion⟩, account, resource, ⟨rfl, haccount⟩, kind, rest, ⟨rfl, -⟩, h⟩
    split_ifs at h with hparts
    obtain ⟨rfl, rfl, rfl, hname⟩ := hparts
    obtain rfl := Option.some.inj h
    exact ⟨partition, region, account, rest, rfl, hpartition, hregion, haccount, hname, rfl⟩
  · rintro ⟨partition, region, account, rest, rfl, hpartition, hregion, haccount, hname, rfl⟩
    refine ⟨_, _, ⟨rfl, by decide⟩, partition, _, ⟨rfl, hpartition⟩, _, _, ⟨rfl, by decide⟩,
      region, _, ⟨rfl, hregion⟩, account, _, ⟨rfl, haccount⟩, _, rest, ⟨rfl, by decide⟩, ?_⟩
    exact if_pos ⟨rfl, rfl, rfl, hname⟩

theorem tableName?_eq_some_iff_holdsTable {s name : String} :
    tableName? s.toList = some name.toList ↔ HoldsTable s name := by
  rw [tableName?_eq_some_iff]
  constructor
  · rintro ⟨partition, region, account, rest, harn, hpartition, hregion, haccount, hname, hfront⟩
    obtain ⟨hslash, hrest⟩ := takeWhile_eq_iff.1 hfront
    obtain ⟨after, hafter, hends⟩ : ∃ after : String, rest = name.toList ++ after.toList ∧
        (after = "" ∨ ∃ tail, after = "/" ++ tail) := by
      rcases hrest with rfl | ⟨tail, rfl⟩
      · exact ⟨"", by simp, .inl rfl⟩
      · exact ⟨"/" ++ String.ofList tail, by simp, .inr ⟨_, rfl⟩⟩
    have hs : s = "arn:" ++ String.ofList partition ++ ":dynamodb:" ++ String.ofList region ++
        ":" ++ String.ofList account ++ ":table/" ++ name ++ after :=
      String.toList_inj.1 (by simp [harn, hafter])
    rw [hs]
    refine .table ?_ ?_ ?_ (fun h => hname (by simp [h])) hslash hends
    all_goals rwa [String.toList_ofList]
  · rintro @⟨partition, region, account, _, rest, hpartition, hregion, haccount, hname, hslash, hrest⟩
    refine ⟨partition.toList, region.toList, account.toList, name.toList ++ rest.toList,
      by simp, hpartition, hregion, haccount, by simpa using hname, ?_⟩
    refine takeWhile_eq_iff.2 ⟨hslash, ?_⟩
    rcases hrest with rfl | ⟨tail, rfl⟩
    · exact .inl (by simp)
    · exact .inr ⟨tail.toList, by simp⟩

theorem HoldsTable.unique {s name name' : String} (h : HoldsTable s name)
    (h' : HoldsTable s name') : name = name' := by
  rw [← tableName?_eq_some_iff_holdsTable] at h h'
  exact String.toList_inj.1 (Option.some.inj (h.symm.trans h'))

variable {tableNames : List (String × String)} {resources : Json}

theorem resolve_literal_eq_ok_iff {s name : String} :
    (literal s).resolve tableNames resources = .ok name ↔ HoldsTable s name := by
  rw [← tableName?_eq_some_iff_holdsTable, resolve]
  cases tableName? s.toList with
  | none => simp
  | some found => simp [String.ext_iff]

theorem resolve_literal_eq_error_iff {s : String} {e : SourceError} :
    (literal s).resolve tableNames resources = .error e ↔
      e = .invalidArn s ∧ ¬∃ name, HoldsTable s name := by
  simp only [← @resolve_literal_eq_ok_iff tableNames resources]
  rw [resolve]
  cases tableName? s.toList <;> simp [eq_comm]

/--
A text is always read as the name of a stream. If it starts as a full name does, it is resolved to the
table that it holds, and is at fault when it holds none, whatever tables are configured. Any other text
is resolved to the table that is configured for it.
-/
theorem resolve_text_iff_holdsTable (s : String) (tableNames : List (String × String))
    (resources : Json) :
    ∃ arn, StreamArn.decode (.string s) = .ok arn ∧
      ("arn:".toList <+: s.toList →
        (∀ name, arn.resolve tableNames resources = .ok name ↔ HoldsTable s name) ∧
        (∀ name name', HoldsTable s name → HoldsTable s name' → name = name') ∧
        ((¬∃ name, HoldsTable s name) →
          arn.resolve tableNames resources = .error (.invalidArn s))) ∧
      (¬"arn:".toList <+: s.toList →
        arn.resolve tableNames resources = match Fields.get? s tableNames with
          | some name => .ok name
          | none => .error (.missingTableMapping s)) := by
  refine ⟨.ofText s, rfl, fun hstart => ?_, fun hstart => ?_⟩
  · have hliteral : ofText s = literal s := if_pos (List.isPrefixOf_iff_prefix.2 hstart)
    rw [hliteral]
    exact ⟨fun _ => resolve_literal_eq_ok_iff, fun _ _ => HoldsTable.unique,
      fun hnone => resolve_literal_eq_error_iff.2 ⟨rfl, hnone⟩⟩
  · have hreference : ofText s = reference s := if_neg (mt List.isPrefixOf_iff_prefix.1 hstart)
    rw [hreference]
    rfl

/-- Colons may stand in the name and after it, and a configured table is not looked at. -/
theorem resolve_text_with_colons :
    let s := "arn:aws:dynamodb:eu-west-1::table/a:b/stream/2024-01-01T00:00"
    "arn:".toList <+: s.toList ∧ ∃ arn, StreamArn.decode (.string s) = .ok arn ∧
      arn.resolve [(s, "other")] .null = .ok "a:b" := by
  intro s
  have hstart : "arn:".toList <+: s.toList := by decide
  obtain ⟨arn, harn, hfull, -⟩ := resolve_text_iff_holdsTable s [(s, "other")] .null
  refine ⟨hstart, arn, harn, ((hfull hstart).1 "a:b").2 ?_⟩
  exact @HoldsTable.table "aws" "eu-west-1" "" "a:b" "/stream/2024-01-01T00:00" (by decide)
    (by decide) (by decide) (by decide) (by decide) (.inr ⟨"stream/2024-01-01T00:00", rfl⟩)

end StreamArn

end ChangeSieve
