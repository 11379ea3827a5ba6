import InstanceIdentity.Proofs.Json.Reading
import InstanceIdentity.Store.FileStore

/-!
# Reading a cache file back

What a save writes is read back as a token with the same secret, whatever characters that has.  Its
time of creation is the instant that the recorded decimal number of seconds names.

Main results:

- Definition `CacheFile.recalled`: the token that is read back.
- Theorem `CacheFile.parse_render`: the content of a cache file is read back.
- Theorem `FileStore.decode_payload`: so are its bytes.
-/

namespace InstanceIdentity

namespace CacheFile

open Json.Reader (Reads Takes quoted separated reads_member reads_members_end)

/-- The token that is read back from the content that a save writes for a token. -/
def recalled (token : CachedToken) : Except StoreError CachedToken :=
  (Time.text (timeText token.createdAt)).instant?.elim
    (.error (.invalidTimestamp (timeText token.createdAt)))
    fun createdAt => .ok { secret := token.secret, createdAt }

/-- The characters of a cache file. -/
def written (time secret : String) (rest : List Char) : List Char :=
  '\x7b' :: separated true (quoted "ctime" (':' :: quoted time
    (separated false (quoted "token" (':' :: quoted secret ('\x7d' :: rest))))))

/-- The text of an object with the two members of a cache file. -/
theorem render_members (time secret : String) :
    (Json.object [("ctime", .text time), ("token", .text secret)]).render =
      "\x7b" ++ (Json.quotedText "ctime" ++ ":" ++ Json.quotedText time ++ "," ++
        (Json.quotedText "token" ++ ":" ++ Json.quotedText secret)) ++ "\x7d" := by
  rw [Json.render, Json.renderMembers, Json.renderMembers, Json.render, Json.render]
  exact List.cons_ne_nil _ _

theorem toList_render_members (time secret : String) :
    (Json.object [("ctime", .text time), ("token", .text secret)]).render.toList =
      written time secret [] := by
  have hopening : "\x7b".toList = ['\x7b'] := rfl
  have hcolon : ":".toList = [':'] := rfl
  have hcomma : ",".toList = [','] := rfl
  have hclosing : "\x7d".toList = ['\x7d'] := rfl
  rw [render_members]
  simp only [String.toList_append, hopening, hcolon, hcomma, hclosing, Json.Reader.toList_quotedText,
    Json.Reader.quoted_append, List.cons_append, List.nil_append]
  rfl

theorem toList_render (token : CachedToken) :
    (render token).toList = written (timeText token.createdAt) token.secret.exposed [] :=
  toList_render_members _ _

/-- A time is read as the text that was written. -/
theorem reads_time (room : Nat) (time : String) (rest : List Char) :
    Reads (Time.shape.read room) (quoted time rest) (.text time) rest := by
  unfold Time.shape Json.Shape.read
  exact .bind (Json.Reader.reads_value_text room time rest) (.pure _ rest)

/-- A secret is read as the text that was written. -/
theorem reads_secret (room : Nat) (secret : String) (rest : List Char) :
    Reads (Json.Shape.plainText.read room) (quoted secret rest) secret rest := by
  unfold Json.Shape.plainText Json.Shape.read
  exact Json.Reader.reads_textBy rfl rest

/-- The fields of a cache file. -/
def fields : Json.Fields (Option Time × Option String × Unit) (Time × String × Unit) :=
  .field "ctime" .refused Time.shape <| .field "token" .refused .plainText .done

theorem takes_time (room : Nat) (time : String) (others : Option String × Unit) (rest : List Char) :
    Takes fields room "ctime" (none, others) (':' :: quoted time rest) (some (.text time), others)
      rest :=
  .own (reads_time room time rest)

theorem takes_secret (room : Nat) (secret : String) (slot : Option Time) (rest : List Char) :
    Takes fields room "token" (slot, none, ()) (':' :: quoted secret rest) (slot, some secret, ())
      rest :=
  .further (by decide) (.own (reads_secret room secret rest))

/-- The two members of a cache file are read as its content. -/
theorem reads_content (time secret : String) (rest : List Char) :
    Reads (Content.shape.read Json.Reader.nesting) (written time secret rest) ⟨.text time, secret⟩
      rest := by
  have hmembers : Reads ((Json.Shape.record "struct CacheFile" fields).read Json.Reader.nesting)
      (written time secret rest) (.text time, secret, ()) rest := by
    unfold Json.Shape.read
    refine Json.Reader.reads_record (some (.text time), some secret, ()) ?_ rfl
    -- one step for each member, and one that finds the end
    exact reads_member (takes_time _ time _ _) (reads_member (takes_secret _ secret _ _)
      (reads_members_end _ _ _ _ rest))
  unfold Content.shape Json.Shape.via Json.Shape.read
  exact .bind hmembers (.pure _ rest)

/-- A content whose time names an instant is a token. -/
theorem parse_of_run {path content secret : String} {time : Time}
    (hrun : (Content.shape.read Json.Reader.nesting).run content = .ok ⟨time, secret⟩) :
    parse path content = time.instant?.elim (.error (.invalidTimestamp time.found))
      fun createdAt => .ok { secret := ⟨secret⟩, createdAt } := by
  unfold parse
  rw [hrun]
  dsimp only
  cases time.instant? with
  | none => rfl
  | some createdAt => rfl

/-- The content of a cache file is read back. -/
theorem parse_render (path : String) (token : CachedToken) :
    parse path (render token) = recalled token := by
  have hcontent := reads_content (timeText token.createdAt) token.secret.exposed []
  rw [← toList_render] at hcontent
  rw [parse_of_run hcontent.run]
  rfl

end CacheFile

namespace FileStore

theorem toList_loop (bytes : ByteArray) (i : Nat) (read : List UInt8) :
    ByteArray.toList.loop bytes i read = read.reverse ++ bytes.data.toList.drop i := by
  fun_induction ByteArray.toList.loop bytes i read with
  | case1 i read hmore ih =>
    have hbounded : i < bytes.data.toList.length := by simpa using hmore
    have hfirst : bytes.get! i = bytes.data.toList[i] := by
      have hinside : i < bytes.data.size := by simpa using hbounded
      change bytes.data[i]! = _
      rw [getElem!_pos bytes.data i hinside, Array.getElem_toList]
    rw [ih, List.drop_eq_getElem_cons hbounded, ← hfirst]
    simp
  | case2 i read hdone =>
    rw [List.drop_eq_nil_of_le (by simpa using hdone), List.append_nil]

/-- The bytes of an array in their order. -/
theorem toList_eq (bytes : ByteArray) : bytes.toList = bytes.data.toList :=
  toList_loop bytes 0 []

/-- The bytes of a text are the bytes of that text. -/
theorem fromUTF8?_toUTF8 (s : String) : String.fromUTF8? ⟨s.toUTF8.toList.toArray⟩ = some s := by
  rw [toList_eq]
  unfold String.fromUTF8?
  rw [String.toUTF8_eq_toByteArray]
  rw [dif_pos s.isValidUTF8]
  rfl

theorem decode_eq (store : FileStore) (bytes : List UInt8) :
    store.decode bytes = (String.fromUTF8? ⟨bytes.toArray⟩).elim
      (.error (failed "read" store.path (.other "stream did not contain valid UTF-8")))
      (CacheFile.parse store.path) := by
  unfold decode
  cases String.fromUTF8? ⟨bytes.toArray⟩ with
  | none => rfl
  | some content => rfl

/-- The bytes that a save writes are read back. -/
theorem decode_payload (store : FileStore) (token : CachedToken) :
    store.decode (payload token) = CacheFile.recalled token := by
  rw [decode_eq, payload, fromUTF8?_toUTF8, Option.elim_some]
  exact CacheFile.parse_render store.path token

theorem load_of_missing (store : FileStore) {fs : FileSystem}
    (hmissing : fs.read store.path = .error .notFound) : store.load fs = .ok none := by
  unfold load
  rw [hmissing]

theorem load_of_read (store : FileStore) {fs : FileSystem} {bytes : List UInt8}
    (hread : fs.read store.path = .ok bytes) : store.load fs = (store.decode bytes).map some := by
  unfold load
  rw [hread]

end FileStore

end InstanceIdentity
