import TunnelRelay.StreamError
import TunnelRelay.Lifecycle.State

/-!
# Errors of the tunnel

A tunnel fails in three layers. `ProtocolError` and `CryptoError` come from one malformed or
unreadable frame and are always fatal to the tunnel; `RelayError` adds what sessions and streams
can report. Each error is a cause; its wording is in one `message` function.
-/

namespace TunnelRelay

/-- A frame or message body that does not parse. -/
inductive ProtocolError where
  /-- The frame does not begin with the magic marker. -/
  | invalidMagic
  /-- The bytes end inside the named part. -/
  | truncated (part : String)
  /-- No body type has this octet in the family that was expected. -/
  | unknownBodyType (code : UInt8)
  /-- No cipher has this octet. -/
  | unknownCipher (code : UInt8)
  /-- The named field is not UTF-8. -/
  | invalidUtf8 (field : String)
  /-- Octets follow the last field of a body. -/
  | trailingBytes (count : Nat)
  /-- A compressed frame declares a size below zero or above the limit. -/
  | decompressedSizeTooLarge (size : Int)
  /-- The compressed data is not a valid block of the declared size. -/
  | decompress (cause : StreamError)
  deriving DecidableEq, Repr

/-- How a protocol error is reported. -/
def ProtocolError.message : ProtocolError → String
  | invalidMagic => "Invalid magic marker in ppaass frame"
  | truncated part => s!"Truncated ppaass frame, fail to read: {part}"
  | unknownBodyType n => s!"Fail to parse ppaass message body type: {n}"
  | unknownCipher n => s!"Fail to parse ppaass message body encryption type: {n}"
  | invalidUtf8 field => s!"Fail to parse utf8 field [{field}] in ppaass message body"
  | trailingBytes n => s!"Ppaass message body has {n} trailing bytes"
  | decompressedSizeTooLarge n => s!"Decompressed ppaass frame size out of bound: {n}"
  | decompress e => s!"Fail to decompress ppaass frame: {e.text}"

/-- The error's name as it is reported. -/
def ProtocolError.name : ProtocolError → String
  | invalidMagic => "InvalidMagic"
  | truncated _ => "Truncated"
  | unknownBodyType _ => "UnknownBodyType"
  | unknownCipher _ => "UnknownEncryptionType"
  | invalidUtf8 _ => "InvalidUtf8"
  | trailingBytes _ => "TrailingBytes"
  | decompressedSizeTooLarge _ => "DecompressedSizeTooLarge"
  | decompress _ => "Decompress"

/-- A key, a token or a cipher text that cannot be used. -/
inductive CryptoError where
  /-- A key file holds no usable RSA key. -/
  | invalidRsaKey (cause : String)
  /-- A token cannot be encrypted under the public key. -/
  | rsaEncrypt (cause : String)
  /-- A sealed token does not open under the private key. -/
  | rsaDecrypt (cause : String)
  /-- The cipher takes no key of this length. -/
  | invalidTokenLength (length : Nat)
  /-- The cipher text is empty or no whole number of blocks. -/
  | invalidCipherTextLength (length : Nat)
  /-- The last block does not end in valid padding. -/
  | invalidPadding
  deriving DecidableEq, Repr

/-- How a crypto error is reported. -/
def CryptoError.message : CryptoError → String
  | invalidRsaKey cause => s!"Fail to parse rsa key: {cause}"
  | rsaEncrypt cause => s!"Fail to encrypt encryption token with rsa: {cause}"
  | rsaDecrypt cause => s!"Fail to decrypt encryption token with rsa: {cause}"
  | invalidTokenLength n => s!"Invalid encryption token length: {n}"
  | invalidCipherTextLength n => s!"Invalid symmetric cipher text length: {n}"
  | invalidPadding => "Invalid symmetric padding"

/-- The error's name as it is reported. -/
def CryptoError.name : CryptoError → String
  | invalidRsaKey _ => "InvalidRsaKey"
  | rsaEncrypt _ => "RsaEncrypt"
  | rsaDecrypt _ => "RsaDecrypt"
  | invalidTokenLength _ => "InvalidTokenLength"
  | invalidCipherTextLength _ => "InvalidCipherTextLength"
  | invalidPadding => "InvalidPadding"

/-- Anything that can end or disturb a relay session. -/
inductive RelayError where
  /-- A frame does not parse. -/
  | protocol (cause : ProtocolError)
  /-- A frame does not open. -/
  | crypto (cause : CryptoError)
  /-- No attempt reached the target. -/
  | connectFail (host : String) (port : UInt16) (attempts : UInt32)
  /-- Writing failed more often than it may be retried. -/
  | transientWrite (attempts : UInt32) (cause : StreamError)
  /-- The other side is gone. -/
  | channelClosed (reason : String)
  /-- A session was not in the state that a step requires. -/
  | invalidRelayState (expect actual : RelayState)
  /-- A session of this name is registered already. -/
  | duplicateConnection (id : String)
  /-- A stream failed. -/
  | stream (cause : StreamError)
  deriving DecidableEq, Repr

namespace RelayError

/-- How an error is reported. -/
def message : RelayError → String
  | protocol e => s!"Protocol error: {e.message}"
  | crypto e => s!"Crypto error: {e.message}"
  | connectFail host port attempts =>
    s!"Fail to connect target [{host}:{port}] after {attempts} attempts"
  | transientWrite attempts e => s!"Fail to write after {attempts} attempts: {e.text}"
  | channelClosed reason => s!"Channel already closed: {reason}"
  | invalidRelayState expect actual =>
    s!"Invalid relay state, require: {expect.name}, get: {actual.name}"
  | duplicateConnection id => s!"Connection [{id}] already registered"
  | stream e => s!"I/O error: {e.text}"

/-- The error's name as it is reported; a cause of another layer follows its layer. -/
def name : RelayError → String
  | protocol e => "Protocol::" ++ e.name
  | crypto e => "Crypto::" ++ e.name
  | connectFail _ _ _ => "ConnectFail"
  | transientWrite _ _ => "TransientWrite"
  | channelClosed _ => "ChannelClosed"
  | invalidRelayState _ _ => "InvalidRelayState"
  | duplicateConnection _ => "DuplicateConnection"
  | stream e => "Io::" ++ e.kind.name

/-- A frame that cannot be read closes its tunnel without a retry. -/
def isFatal : RelayError → Bool
  | protocol _ | crypto _ => true
  | _ => false

/-- The other side is gone, so nothing more can be sent. -/
def isChannelClosed : RelayError → Bool
  | channelClosed _ => true
  | stream e => e.kind.closesChannel
  | _ => false

end RelayError

end TunnelRelay
