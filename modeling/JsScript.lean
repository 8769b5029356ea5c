import JsScript.Basic
import JsScript.ScriptSource.Refcount
import JsScript.ScriptSource.Holder
import JsScript.ScriptSource.Text
import JsScript.ScriptSource.Pinning
import JsScript.ScriptSource.Cache
import JsScript.ScriptSource.Info
import JsScript.SharedScriptData.Layout
import JsScript.SharedScriptData.Hasher
import JsScript.SharedScriptData.Interning
import JsScript.LazyScript.BitField
import JsScript.LazyScript.Span
import JsScript.LazyScript.PackedView
import JsScript.LazyScript.Link
import JsScript.Script.Data
import JsScript.Script.Bytecode
import JsScript.Script.Tier
import JsScript.Script.WarmUp
import JsScript.Script.EvalCache
import JsScript.Script.Sharing
