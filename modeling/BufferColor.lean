import BufferColor.Session
import BufferColor.Proofs.HexReading
import BufferColor.Proofs.HexForm
import BufferColor.Proofs.Storable
import BufferColor.Proofs.HexPlaces
import BufferColor.Proofs.SignedPlaces
import BufferColor.Proofs.Detour
import BufferColor.Proofs.Creation
import BufferColor.Proofs.SessionRange
import BufferColor.Proofs.TextForm
import BufferColor.Proofs.ReadingOrder
import BufferColor.Proofs.Refusal
import BufferColor.Proofs.NormalForm
import BufferColor.Proofs.ComponentCheck
import BufferColor.Proofs.PackedNumber
import BufferColor.Proofs.StrictReading
import BufferColor.Proofs.Description
import BufferColor.Proofs.LineForm
import BufferColor.Proofs.OctetText
import BufferColor.Proofs.NameLetters
import BufferColor.Proofs.PrintedValue
import BufferColor.Proofs.PrintedMessage
import BufferColor.Proofs.QuotedText
import BufferColor.Proofs.RefusalMessage
import BufferColor.Proofs.PlainText
